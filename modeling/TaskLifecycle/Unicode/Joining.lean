import TaskLifecycle.Unicode.Runs

/-!
# TaskLifecycle.Unicode.Joining — how letters of cursive scripts join

Entries: 0 joins on both sides, 1 on the right, 2 on the left, 3 is passed through.
-/

namespace TaskLifecycle
namespace Unicode

/-! ## Tables -/

/-- Joining types. -/
def joiningRows : List String := [
  "300+3f=3 3=3 4+8=3 2+1f=3 114+6=3 108+2c=3 2=3 2+1=3 2+1=3 2+7=3 42+a=3 6=0 2+3=1 1=0 1=1 1=0 1=1",
  "1+4=0 1+3=1 1+c=0 2+6=0 1=1 1+1=0 1+14=3 f+1=0 1=3 1+2=1 6+e=0 1+11=1 1+25=0 1=1 1+1=0 1+8=1 1=0 1=1",
  "1=0 1=1 1+1=0 1+1=1 2=1 1+6=3 3+5=3 3+1=3 2+3=3 1+1=1 b+2=0 3=0 11=1 1=3 1+2=0 1+4=1 1+3=0 1=1 1+8=0",
  "1=1 1=0 1=1 1=0 1=1 1+1=0 1=1 1+1a=3 3=1 1+a=0 1+2=1 1+e=0 1+1=1 1+3=0 1=1 1=0 1+1=1 1+2=0 1+1=1",
  "1+5=0 27+a=3 1a+20=0 1+8=3 a=3 19+3=3 2+8=3 2+2=3 2+4=3 13=1 1+4=0 1+1=1 1=0 1=1 1+9=0 1=1 1=0 1+2=1",
  "1+2=3 5=0 2+3=0 2=1 1=0 1+1=1 6+12=1 4=0 3+4=0 1=1 1=0 8+8=3 1+9=0 1+2=1 2=1 1+1=0 1+1=1 1+5=0 1=1",
  "1+e=0 2+17=3 2+1f=3 38=3 2=3 5+7=3 5=3 4+6=3 b+1=3 1e=3 3b=3 5+3=3 9=3 15+1=3 1b=3 3+1=3 3a=3 5+1=3",
  "5+1=3 3+2=3 4=3 1f+1=3 4=3 c+1=3 3a=3 5+4=3 2+1=3 5=3 15+1=3 17+5=3 2=3 3b=3 3=3 2+3=3 9=3 8+1=3",
  "c+1=3 1f=3 3e=3 d=3 33=3 4=3 38=3 2+2=3 6+2=3 2+3=3 8+1=3 c+1=3 1e=3 3b=3 3=3 7=3 6+1=3 15+1=3",
  "1d+1=3 3a+1=3 5+3=3 9=3 15+1=3 1e=3 49=3 8+2=3 2=3 5b=3 3+6=3 d+7=3 63=3 3+8=3 c+6=3 4a+1=3 1c=3 2=3",
  "2=3 38+1=3 2=3 6+4=3 2=3 2+2=3 2+1=3 6+5=3 2+3=3 2+3=3 2+3=3 2+3=3 2+3=3 2+b=3 2+2=3 a=3 67+3=3",
  "2+5=3 2+1=3 3+1=3 1a+1=3 5+2=3 11+3=3 e=3 3+1=3 7=3 10=3 2c0+2=3 3b3+2=3 1e+1=3 1f+1=3 1f+1=3 44+6=3",
  "9=3 3+a=3 a=3 2a=0 19+58=0 d+1=3 1+21=0 1=3 1=0 76+2=3 5+1=3 a=3 7+2=3 dc+1=3 3=3 3b=3 2+6=3 2=3 2=3",
  "3+7=3 7+9=3 3=3 31+53=3 31=3 2+3=3 9=3 29+8=3 d+1=3 21+3=3 3+1=3 2+2=3 39=3 2+1=3 4=3 2+2=3 3b+7=3",
  "3+1=3 99+2=3 2+c=3 2+6=3 5=3 7=3 4+1=3 c7+3f=3 2d1+20=3 bff+2=3 8e=3 61+1f=3 22b+3=3 6c+1=3 75d5+3=3",
  "2+9=3 21+1=3 51+1=3 111=3 4=3 5=3 1a+1=3 6=3 14+31=0 1=2 52+1=3 1b+11=3 e=3 27+7=3 1a+a=3 2f+2=3",
  "31=3 3+3=3 3+1=3 28=3 44+5=3 3+1=3 3+1=3 d=3 9=3 30=3 34=3 2+2=3 3+1=3 6+1=3 2=3 2b+1=3 9=3 ef=3 3=3",
  "5=3 4f31=3 302+f=3 3ce=3 e3=3 96+4=3 687+2=3 2+1=3 6+3=3 29+2=3 5=3 81+4=0 1=1 2=1 2+1=1 3=2 1+4=1",
  "1+3=0 1=2 1+4=0 1=1 1+2=0 1=1 3=1 1+1=3 5+3=0 1=1 91=0 1=1 1=0 1+2=1 1+2=0 1=1 1+1=0 1=1 1=0 1+1=1",
  "1=0 1=1 18+3=1 1+1=0 152=2 1+20=0 1=1 1=0 1+3=3 42+4=3 13e+1=3 16=1 1+1=0 2+1=0 12+6=0 1b+5=3 31+2=0",
  "1=1 1+10=0 2+a=3 1+2=0 1=1 1c+3=0 1+1=1 1+b=0 1+3=3 2b=0 2+1=0 1+2=1 2=0 1+1=1 1+1=0 1=1 1+1=0 2=0",
  "1+1=1 1=0 5=1 1=0 1=2 36=3 37+e=3 2a=3 3+1=3 b+2=3 32+3=3 3+1=3 8=3 3e+2=3 25+4=3 2+7=3 3f=3 d+1=3",
  "35+8=3 b+3=3 3=3 60+2=3 3=3 2+1=3 7=3 3=3 9e=3 4+7=3 16+1=3 3a+1=3 4=3 26+6=3 4+4=3 47+5=3 e=3 2=3",
  "2=3 f+1=3 56+7=3 3+2=3 2=3 18=3 55+5=3 2=3 5+1=3 2+1=3 ef+3=3 7+1=3 2+1=3 1c+1=3 56+7=3 3=3 2+1=3",
  "6b=3 2=3 3+5=3 2=3 66=3 2=3 3+3=3 2+4=3 104+8=3 2+1=3 101+1=3 2=3 5=3 91+3=3 3+1=3 5=3 21+9=3 29+5=3",
  "3+3=3 9=3 a+5=3 3+2=3 2f+c=3 2+1=3 c7=3 2+2=3 2=3 ca+6=3 2+5=3 2=3 53+15=3 3+6=3 2+1=3 2+1=3 7b+5=3",
  "4=3 2+1=3 2+6=3 2=3 49+1=3 4=3 2=3 15c+1=3 c+1=3 35+4=3 6=3 2=3 18=3 14e6=3 7+e=3 2cc9+b=3 4+2=3",
  "9c1+4=3 3c+6=3 419=3 40+3=3 52=3 4cb9+1=3 1262+2d=3 3+16=3 221+2=3 12+7=3 3+6=3 1f+3=3 95+2=3",
  "7bc+36=3 5+31=3 9=3 f=3 17+4=3 2+e=3 551+6=3 2+10=3 3+6=3 2+1=3 2+4=3 65=3 a1+6=3 178=3 3e+3=3",
  "1fd+3=3 ff+1=3 f4=3 3=3 8+1=3 6=3 1db+6=3 4c+21=0 1+7=3"]

def joiningRuns : Array Run := readRuns joiningRows

/-! ## Properties -/

/-- How a letter joins its neighbours. -/
inductive Joining where
  | dual
  | right
  | left
  | transparent
  | none
deriving DecidableEq

def joining (c : Char) : Joining :=
  match lookup joiningRuns c with
  | some [0] => .dual
  | some [1] => .right
  | some [2] => .left
  | some [3] => .transparent
  | _ => .none

end Unicode
end TaskLifecycle
