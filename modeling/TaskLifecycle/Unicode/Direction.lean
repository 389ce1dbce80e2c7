import TaskLifecycle.Unicode.Runs

/-!
# TaskLifecycle.Unicode.Direction — the direction in which characters run

The bidirectional classes that a host name can hold.  A character that the table does not list runs left to right.
-/

namespace TaskLifecycle
namespace Unicode

/-! ## Tables -/

/-- Bidirectional classes, numbered as `Direction` lists them. -/
def directionRows : List String := [
  "0+8=9 6+d=9 6+1=8 1+2=7 1+4=8 1=5 1=6 1=5 1+1=6 1+9=4 1=6 1+5=8 1b+5=8 1b+3=8 1=9 22=8 1+3=7 1+1=8",
  "2=8 2+1=8 2=8 2+1=7 5+1=8 4=8 4=8 18=8 20=8 1c2+1=8 8+d=8 3+5=8 7+1=8 6+8=8 2+10=8 1+3f=a 3=a 4+8=a",
  "2+1f=a 6=8 81=8 8d+6=a 101=8 3+1=8 1=7 2+2c=a 1=1 1=a 1=1 1+1=a 1=1 1+1=a 1=1 1+7=a 2+1a=1 5+5=1",
  "12+1=8 1=2 1+1=7 1=2 1=6 1=2 1+1=8 1+a=a 1=2 2+2d=2 1+14=a 1+9=3 1=7 1+1=3 1+2=2 1=a 1+3=2 5+5c=2",
  "1+6=a 2=8 1+5=a 1+1=2 1+1=a 1=8 1+3=a 1+1=2 1+9=4 1+13=2 3=2 1=a 1+1d=2 1+1a=a 3+58=2 1+a=a 1=2",
  "f+2a=1 1+8=a 1+1=1 1+3=8 1=1 3=a 1+17=1 1+3=a 1=1 1+8=a 1=1 1+2=a 1=1 1+4=a 3+e=1 2+18=1 1+2=a 3=1",
  "2+a=2 6+1f=2 8+8=a 1+29=2 1+17=a 2+1f=a 38=a 2=a 5+7=a 5=a 4+6=a b+1=a 1e=a 3b=a 5+3=a 9=a 15+1=a",
  "f+1=7 8=7 3=a 3+1=a 3a=a 5+1=a 5+1=a 3+2=a 4=a 1f+1=a 4=a c+1=a 3a=a 5+4=a 2+1=a 5=a 15+1=a e=7",
  "9+5=a 2=a 3b=a 3=a 2+3=a 9=a 8+1=a c+1=a 1f=a 3e=a d=a 26+5=8 1=7 1=8 6=a 4=a 38=a 2+2=a 6+2=a 2+3=a",
  "8+1=a c+1=a 15+6=8 3=a 3b=a 10+1=a 15+1=a 1d+1=a 3a+1=a 5+3=a 9=a 15+1=a 1e=a 49=a 8+2=a 2=a 5b=a",
  "3+6=a 5=7 8+7=a 63=a 3+8=a c+6=a 4a+1=a 1c=a 2=a 2=a 1+3=8 34+1=a 2=a 6+4=a 2=a 2+2=a 2+1=a 6+5=a",
  "2+3=a 2+3=a 2+3=a 2+3=a 2+3=a 2+b=a 2+2=a a=a 67+3=a 2+5=a 2+1=a 3+1=a 1a+1=a 5+2=a 11+3=a e=a 3+1=a",
  "7=a 10=a 2c0+2=a 31+9=8 67=8 29b+1=8 76+2=a 1e+1=a 1f+1=a 1f+1=a 44+6=a 9=a 3+a=a 8=7 2=a 13+9=8",
  "7+a=8 7b+1=a 23=a 77+2=a 5+1=a a=a 7+2=a 5=8 4+1=8 99+21=8 18+1=a 3=a 3b=a 2+6=a 2=a 2=a 3+7=a 7+9=a",
  "3=a 31+53=a 31=a 2+3=a 9=a 29+8=a d+1=a 21+3=a 3+1=a 2+2=a 39=a 2+1=a 4=a 2+2=a 3b+7=a 3+1=a 99+2=a",
  "2+c=a 2+6=a 5=a 7=a 4+1=a c7+3f=a 20d+1=9 3=8 2+4=8 2+b=8 4=8 9+2=7 3=8 3+3=8 2=8 2+4=8 1=6 1+1=8",
  "4+c=8 2+6=8 42+7=7 2+1b=7 c+20=a 14=8 4=8 c=8 3+1=8 6+1=8 4=8 2=8 2=8 2=8 5=7 c=8 7+3=8 6+3=8 3d+1=8",
  "5+81=8 1=5 1=7 1+17=8 3=8 3+f7=8 3+a=8 46+19=8 2+93=8 17+a=8 a1+1c0=8 2+152=8 101+10b=8 2+66=8",
  "4+64=8 2+96=8 3+89=8 e6+5=8 5+2=a 8+6=8 80=a 61+1f=a 1+60=8 20+19=8 2+3=8 2+52=8 10f=8 2+1=8 4+18=8",
  "a+3=a 3=8 7=8 6+2=8 5a+1=a 6=8 5b=8 c5+25=8 1bdb+3f=8 5691+36=8 147+2=8 60+3=a 1=8 1+9=a 1+1=8",
  "1f+1=a 51+1=a f+21=8 67=8 7a=a 4=a 5=a 1a+1=a 2+3=8 1=a c+1=7 3b+3=8 4d+1=a 1b+11=a e=a 27+7=a",
  "1a+a=a 2f+2=a 31=a 3+3=a 3+1=a 28=a 44+5=a 3+1=a 3+1=a d=a 9=a 30=a 34=a 2+2=a 3+1=a 6+1=a 2=a",
  "2b+1=a 9=a 74+1=8 7a=a 3=a 5=a 4f31=a 94+10=2 1+f=8 16c+11=8 41+1=8 37+7=8 2e+2=8 21+f=a 16+1=8 2d=2",
  "28e=8 3f+4c=8 4+c=8 4=8 5d=a e3=a 1+1a=4 7b+4=a 486+5=1 3=1 2+2b=1 2+1=1 4=1 3+16=1 2+47=1 9+8=1",
  "31+12=1 2+1=1 6+20=1 4=8 1+19=1 6+1a=1 27+37=1 5+13=1 3+2e=1 1+2=a 2+1=a 6+3=a 1+3=1 2+2=1 2+1c=1",
  "3+2=a 5=a 1+8=1 8+8=1 8+3f=1 21+24=1 1+1=a 5+b=1 a+35=1 4+6=8 1+15=1 3+1a=1 6+19=1 8+3=1 d+6=1",
  "51+48=1 78+32=1 8+5=1 1+23=2 1+3=a 9+9=3 7+f=1 1a+4=a 1=8 1+16=1 9+1=1 d1+1e=3 2+29=1 2+1=a 1=1",
  "3+1=1 11+c=2 1+9=8 1+6=2 1b+5=a 1+27=1 9+15=2 1+a=a 1+8=2 17+11=1 1+3=a 1+3=1 27+1b=1 15+16=1 b=a",
  "37+e=a c+13=8 b=a 3+1=a b+2=a 32+3=a 3+1=a 8=a 3e+2=a 25+4=a 2+7=a 3f=a d+1=a 35+8=a b+3=a 3=a",
  "60+2=a 3=a 2+1=a 7=a 3=a 9e=a 4+7=a 16+1=a 3a+1=a 4=a 26+6=a 4+4=a 47+5=a e=a 2=a 2=a f+1=a 56+7=a",
  "3+2=a 2=a 18=a 55+5=a 2=a 5+1=a 2+1=a ef+3=a 7+1=a 2+1=a 1c+1=a 56+7=a 3=a 2+1=a 20+c=8 3f=a 2=a",
  "3+5=a 2=a 66=a 2=a 3+3=a 2+4=a 104+8=a 2+1=a 101+1=a 2=a 5=a 91+3=a 3+1=a 5=a 21+5=a 3+1=a 29+5=a",
  "3+3=a 9=a a+5=a 3+2=a 2f+c=a 2+1=a c7=a 2+2=a 2=a ca+6=a 2+5=a 55+15=a 3+6=a 2+1=a 2+1=a 7b+5=a 4=a",
  "2+1=a 2+6=a 2=a 49+1=a 4=a 2=a 15c+1=a c+1=a 35+4=a 6=a 2=a 18=a 7b+7=8 1+3=7 1+10=8 144f=a 7+e=a",
  "2cc9+b=a 4+2=a 9c1+4=a 3c+6=a 419=a 40+3=a 50=8 2=a 4cb9+1=a f62+d5=8 25+2=8 4+1b3=8 7+45=8 1+2d=a",
  "3+16=a 221+2=a 12+7=a 3+6=a 1f+3=a 3c+1=8 16+41=8 1+2=a 1=8 bb+56=8 6aa+36=a 5+31=a 9=a f=a 17+4=a",
  "2+e=a 51+ff=8 401+6=a 2+10=a 3+6=a 2+1=a 2+4=a 65=a a1+6=a 178=a 3e+3=a 10=7 1ed+3=a ff+1=a f4=a 3=a",
  "8+1=a 6=a 10b+c4=1 3+8=1 1+6=a 4c+21=1 1+6=a 1=1 5+9=1 5+1=1 312+43=2 4d+3c=2 1b3+1=8 10f+2b=8",
  "5+63=8 d+e=8 3+e=8 2+e=8 2+24=8 16+4=8 20=8 3e+2=8 3e=8 b3+5=8 9b+3ec=8 4+c=8 4+eb=8 5=8 10+b=8",
  "5+37=8 9+9=8 7+27=8 9+1d=8 3+b=8 5+1=8 f+8=8 28+157=8 9+d=8 3+c=8 4+46=8 2+ca=8 2+5b=8 b=8"]

def directionRuns : Array Run := readRuns directionRows

/-! ## Properties -/

/-- Bidirectional classes. -/
inductive Direction where
  | leftToRight
  | rightToLeft
  | arabicLetter
  | arabicNumber
  | europeanNumber
  | europeanSeparator
  | commonSeparator
  | europeanTerminator
  | neutral
  | boundaryNeutral
  | mark
deriving DecidableEq

def direction (c : Char) : Direction :=
  match lookup directionRuns c with
  | some [1] => .rightToLeft
  | some [2] => .arabicLetter
  | some [3] => .arabicNumber
  | some [4] => .europeanNumber
  | some [5] => .europeanSeparator
  | some [6] => .commonSeparator
  | some [7] => .europeanTerminator
  | some [8] => .neutral
  | some [9] => .boundaryNeutral
  | some [10] => .mark
  | _ => .leftToRight

end Unicode
end TaskLifecycle
