import TaskLifecycle.Unicode.Runs

/-!
# TaskLifecycle.Unicode.Mark — combining marks

Combining classes decide the order of marks after a character; class 9 holds the viramas.
-/

namespace TaskLifecycle
namespace Unicode

/-! ## Tables -/

/-- Characters of general category Mark. -/
def markRows : List String := [
  "300+6f 114+6 108+2c 2 2+1 2+1 2+7 42+a 31+14 11 66+6 3+5 3+1 2+3 24 1f+1a 5c+a 3b+8 a 19+3 2+8 2+2",
  "2+4 2c+2 3c+8 2b+17 2+20 37+2 2+11 2+6 b+1 1e+2 39 2+6 3+1 3+2 a b+1 1b 3+2 39 2+4 5+1 3+2 4 1f+1 4",
  "c+2 39 2+7 2+2 2+2 15+1 17+5 2+2 39 2+6 3+1 3+2 8+2 b+1 1f 3c+4 4+2 2+3 a 29+4 38 2+6 2+2 2+3 8+1",
  "c+1 1e+2 39 2+6 2+2 2+3 8+1 c+1 10 d+3 38+1 2+6 2+2 2+3 a b+1 1e+2 47 5+5 2 2+7 13+1 3e 3+6 d+7 63",
  "3+8 c+6 4a+1 1c 2 2 5+1 32+13 2+1 6+a 2+23 a 65+13 18+3 5+2 2+2 3+6 4+3 e+b 2 b+3 2c0+2 3b3+3 1d+2",
  "1e+1 1f+1 41+1f a 2e+2 2 76+1 23 77+b 5+b dc+4 3a+9 2+1c 3 31+54 30+10 27+8 d+2 1f+c 39+d 31+13 99+2",
  "2+14 5 7 3+2 c7+3f 2d1+20 bff+2 8e 61+1f 22b+5 6a+1 75d5+3 2+9 21+1 51+1 111 4 5 18+4 5 54+1 33+11",
  "1b+11 e 27+7 1a+c 2d+3 30+d 25 44+d d 9+1 2e+2 33 2+2 3+1 6+1 2 2a+4 6+1 ed+7 2+1 4f31 2e2+f 11+f",
  "3ce e3 96+4 687+2 2+1 6+3 29+2 5 a6+1 23e+3 42+4 13e+1 4e+5 47+a 32+3 7b+2 36+e 2a 3+1 b+3 2e+a 8",
  "3e+2 25+d 11+1 2d d+2 31+d 9+3 2+1 5d+b 7 3 9e+b 16+3 38+1 2+6 3+1 3+2 a b+1 3+6 4+4 44+8 2 3 2+3",
  "2+4 2 f+1 53+11 18 52+13 ec+6 3+8 1c+1 53+10 6b+c 66+e 101+e f6+5 2+1 3+3 2 2+1 8e+6 3+6 4 1d+9 29+6",
  "2+3 9 a+a 2f+f c7+7 c8+7 2+7 53+15 2+d 7b+5 4 2+1 2+6 2 43+4 2+1 2+4 15c+3 a+1 2 31+6 4+4 18 14e6",
  "7+e 2cc9+11 9c1+4 3c+6 419 2+36 8+3 52 c+1 4cac+1 1262+2d 3+16 21f+4 4+5 9+7 3+6 1f+3 95+2 7bc+36",
  "5+31 9 f 17+4 2+e 551+6 2+10 3+6 2+1 2+4 65 a1+6 178 3e+3 1fd+3 ff+1 f4 3 8+1 6 1db+6 6e+6 c17b6+ef"]

/-- Canonical combining classes other than 0. -/
def classRows : List String := [
  "300+14=e6 1=e8 1+3=dc 1=e8 1=d8 1+4=dc 1+1=ca 1+3=dc 1+1=ca 1+a=dc 1+4=1 1+3=dc 1+7=e6 1=f0 1=e6",
  "1+2=dc 1+2=e6 1+1=dc 2+2=e6 1+3=dc 1=e6 1=e8 1+1=dc 1=e6 1=e9 1+1=ea 1=e9 1+1=ea 1=e9 1+c=e6",
  "114+4=e6 10a=dc 1+3=e6 1=dc 1+2=e6 1=de 1=dc 1+5=e6 1+5=dc 1+1=e6 1=dc 1+1=e6 1=de 1=e4 1=e6 1=a 1=b",
  "1=c 1=d 1=e 1=f 1=10 1=11 1=12 1+1=13 1=14 1=15 1=16 2=17 2=18 1=19 2=e6 1=dc 2=12 49+7=e6 1=1e 1=1f",
  "1=20 31=1b 1=1c 1=1d 1=1e 1=1f 1=20 1=21 1=22 1+1=e6 1+1=dc 1+4=e6 1=dc 1+1=e6 1=dc 11=23 66+6=e6",
  "3+3=e6 1=dc 1=e6 3+1=e6 2=dc 1+1=e6 1=dc 24=24 1f=e6 1=dc 1+1=e6 1=dc 1+1=e6 1+2=dc 1=e6 1+1=dc 1=e6",
  "1=dc 1+2=e6 1=dc 1=e6 1=dc 1=e6 1=dc 1=e6 1=dc 1+1=e6 a1+6=e6 1=dc 1=e6 a=dc 19+3=e6 2+8=e6 2+2=e6",
  "2+4=e6 2c+2=dc 3c+1=e6 1+2=dc 1+3=e6 2b+4=e6 1+4=dc 1+d=e6 2=dc 1+1=e6 1=dc 1+1=e6 1=dc 1+2=e6",
  "1+2=dc 1=1b 1=1c 1=1d 1+2=e6 1=dc 1+1=e6 1+1=dc 1+4=e6 3d=7 11=9 4=e6 1=dc 1+1=e6 68=7 11=9 31=e6",
  "3e=7 11=9 6f=7 11=9 6f=7 11=9 80=9 6f=7 11=9 8=54 1=5b 66=7 11=9 6e+1=9 11=9 7d=9 6e+1=67 1=9 e+3=6b",
  "6d+1=76 1=9 e+3=7a 4d+1=dc 1c=dc 2=dc 2=d8 38=81 1=82 2=84 6+3=82 3=82 2+1=e6 1=9 2+1=e6 3f=dc 71=7",
  "2+1=9 53=dc 2d0+2=e6 3b5+1=9 1f=9 9e=9 b=e6 cc=e4 90=de 1=e6 1=dc dc=e6 1=dc 48=9 15+7=e6 3=dc",
  "31+4=e6 1+5=dc 1+1=e6 1=dc 2+1=dc 1+1=e6 1+1=dc 1+4=e6 1=dc 1+11=e6 1=dc 1+7=e6 1=dc 1+3=e6 1=ea",
  "1+13=e6 35=7 10=9 27=e6 1=dc 1+6=e6 37+1=9 3b=7 c+1=9 44=7 99+2=e6 2=1 1+4=dc 1+1=e6 1+3=dc 1=e6",
  "2+6=1 5=dc 7=e6 4+1=e6 c7+1=e6 1=dc 1+6=e6 1=dc 1+1=e6 1=ea 1=d6 1=dc 1=ca 1+24=e6 1=e8 1+1=e4 1=dc",
  "1=da 1=e6 1=e9 1=dc 1=e6 1=dc 2d1+1=e6 1+1=1 1+3=e6 1+2=1 1+1=e6 5=e6 4+1=1 1=e6 1=dc 1=e6 1+1=1",
  "1+3=dc 1=e6 bff+2=e6 8e=9 61+1f=e6 22b=da 1=e4 1=e8 1=de 1+1=e0 6a+1=8 75d5=e6 5+9=e6 21+1=e6",
  "51+1=e6 115=9 26=9 98=9 1c+11=e6 3a+2=dc 26=9 60=7 d=9 f0=e6 2+1=e6 1=dc 3+1=e6 6+1=e6 2=e6 35=9",
  "f7=9 4f31=1a 302+6=e6 1+6=dc 1+1=e6 3ce=dc e3=dc 96+4=e6 693=dc 2=e6 29=e6 1=1 1=dc 5=9 a6=e6 1=dc",
  "23e+3=e6 42+4=e6 13e+1=e6 4e+1=dc 2+2=dc 47+1=dc 1+2=e6 1=dc 1=e6 1+3=dc 32=e6 1=dc 1=e6 1=dc c1=9",
  "2a=9 f=9 3a=9 1=7 46+2=e6 31+1=9 3f=7 4d=9 a=7 6b=9 1=7 b3=7 1=9 51+1=7 11=9 19+6=e6 4+4=e6 5a+2=9",
  "72=9 4=7 18=e6 64=9 1=7 fc=9 1=7 7f=9 77=9 1=7 74=9 10e=9 1=7 103+1=9 5=7 9d=9 54=9 13=9 52=9 1a6=9",
  "103=7 2+1=9 52=9 1aa+1=9 41ed=9 9c1+4=1 3c+6=e6 4ba+1=6 4cad=1 14c7+1=d8 1+2=1 4=e2 1+4=d8 9+7=dc",
  "3+4=e6 1+1=dc 1f+3=e6 95+2=e6 dbc+6=e6 2+10=e6 3+6=e6 2+1=e6 2+4=e6 65=e6 a1+6=e6 178=e6 3e+3=e6",
  "1fd+1=e8 1=dc 1=e6 ff=e6 1=dc f4=e6 3=e6 8+1=e6 6=e6 1db+6=dc 6e+5=e6 1=7"]

def markRuns : Array Run := readRuns markRows

def classRuns : Array Run := readRuns classRows

/-! ## Properties -/

/-- A combining mark. -/
def isMark (c : Char) : Bool :=
  listed markRuns c

/-- The canonical combining class; 0 for a character that starts a cluster. -/
def combiningClass (c : Char) : Nat :=
  match lookup classRuns c with
  | some (n :: _) => n
  | _ => 0

/-- A sign that takes the vowel from a consonant. -/
def isVirama (c : Char) : Bool :=
  combiningClass c == 9

end Unicode
end TaskLifecycle
