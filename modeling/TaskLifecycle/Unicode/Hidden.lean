import TaskLifecycle.Unicode.Runs

/-!
# TaskLifecycle.Unicode.Hidden — characters that a line of text does not show as they are

Controls, formats, separators other than the space, private and unassigned characters, fillers and others that show nothing
by default, and marks that extend the character before them.
-/

namespace TaskLifecycle
namespace Unicode

/-- Hidden characters from U+007F on. -/
def hiddenRows : List String := [
  "7f+21 d 253+6f 9+1 7+3 8 2 15 e1+6 a7 27+1 33+1 4+2d 2 2+1 2+1 2+8 1c+3 7+10 b+a 2 2f+14 11 66+7 2+5",
  "3+1 2+3 21+1 2 1f+1c 5a+a 2+d 2c+8 8+2 19+3 2+8 2+2 2+6 10 1a+4 2 c+4 21+f 2b+38 38 2 5+7 5 4+6 b+1",
  "1e 3 9+1 3+1 17 8 2+2 5+2 2 3+5 3+1 3 2+c 3 4+3 19+4 2 7+3 3+1 17 8+6/3 3+3 4+17 5 2+6 b+1 4 2+b 2 a",
  "4 17 8 3 6+2 5+7 2 3+2 2+e 3+3 d+6 2+7 3 9+1 3+1 17 8 3 6+2 2+1 2+5 3+1 3+e 3 4+3 13+a 2 7+2 4 5+2 3",
  "2 3+2 3+2 4+2 d+4 2 3+2 4 4+2 2+14 16+5 4 9 4 18 11+2 2+2 5+12 4 3+1 3+3 b+6 b c 4 18 b 6+2 3+1 2",
  "3+16 4 3+3 b 4+d c 4 2a+1 2 3+4 4 4 3+3 4 b+3 1b+1 3 13+2 19 a 2+1 8+8 3+5 8+6 b+1 4+b 31 3+a 9+7",
  "e+24 3 2 6 19 2 b 3+8 2+1 6 2+8 b+1 5+1f 19+1 1c+4/2 f 25+11 2+4 2+1 6+30 9 7 e+24 2e+3 2+5 2+1 3+1",
  "1a+1 5+2 11+3 e 3+1 7 10 29 2+4 2+1 90+1 e9 5+1 8 2 5+1 2a 5+1 22 5+1 8 2 5+1 10 3a 5+1 44+4 1e+2",
  "1b+5 57+1 7+1 281 1d+2 5a+6 13+c 14+2 3+8 13+d e 4+e 35+1 2+6 9 3+a a+2 b+5 b+5 c+4 b+5 5a+6 6+1 23",
  "2+4 47+9 20+3 5+1 4+3 3 7+6 2+2 2b+1 6+a 2d+3 1b+5 c+2 3a+1 3+2 39 2+8 2 3+7 7+c b+5 b+5 f+55 31+9",
  "5+2 9 1e+8 d+1 21+3 3+5 39 2+1 4 2+c 31+7 3+4 10+2 3f+4 2c+1 c+a 2+c 2+6 5 7 4+1 2+4 c1+3f 117+1 7+1",
  "27+1 7+1 9+6/2 20+1 36 10 f+1 7 14+1 4 a+10 19+7 30+10 3+1 1c e+2 23+3d 8d+3 29b+15 c+14 715+1 17a+2",
  "3+4 2e 2+4 2+1 39+6 3+e 18+8 8+30/8 8+20 5f+21 1b 5a+b d7+19 11 2a+5 11 57+3 66+4 2c 34 2b 57+8 31",
  "726e+2 38+8 15d+13 30+3 2+9 21+1 51+1 7+7 de+13 12 4 5 1a+1 6+3 b+5 39+7 45+9 d+17 e 27+7 1a+a 2+b",
  "1f+5 31 3+3 3+1 3 e c+3 8 1a 2a+5 3+1 3+a 4 9 2+1 b+1 21 34 2+2 3+1 6+1 2 2+17 12+1 9+a 7+1 7+1 7+8",
  "8 8 3d+3 76 3 5+2 b+5 2ba5+b 18+3 32+2103 16f+1 6b+25 8+b 6+4 2 19 6 2+6/3 28b+1f 11+f b+15 24 14",
  "5+3 6 88+3 a0 1f+2 7+1 7+1 7+1 4+2 8 8+c 3+1 d 1b 14 3 10+1 f+21 7c+4 4+3 2e+2 59 e+2 2+2e 2e+82",
  "1e+2 32+f 1c+3 25+8 1f+4 27+9 1f 26+3 f+29 9f+1 b+5 25+3 25+3 29+7 35+a d 10 8 3 c 10 8 3+2 35+b",
  "138+8 17+9 9+17 7 2b a+44 7+1 2 2d 3+2 2+1 18 49+7 a+2f 14 3+4 22+2 1c+4 1c+25 39+3 15+1 30+e 5 4",
  "1e+9 a+6 a+6 41+1f 26+5 d+8 37+2 1e+1 1c+4 1b+6 5+b 8+4f 4a+36 34+c 34+6 2b+b b+5 27+7 19+7 3+cf 20",
  "2b+2 2+1 3+f 7+7 a+26 29+7 17+a a+15 13+3 5+25 1d+13 18+8 2 37+e 8+3 1f 3+1 2+b 32+3 3+1 3 5+d 1a+6",
  "b+8 25+4 2+8 13+7 24 4+a 35+8 2 9+3 3 11 15+a 13 1d+2 3+3 7 3+3e 8 2 5 10 c+5 30 4+c b+7 3 9+1 3+1",
  "17 8 3 6+2 2 2 5+1 3+1 3+2 2+b 8+1b b 2+1 2 27 2 3+e 2 3+2 2 4 3+26 39+7 3+2 2 16 2 4+1d 31 3+5 2 3",
  "2+1 2+1 5+7 b+a5 30 3+5 5+1 2+1 1c+23 34+7 3 2+1 5+a b+5 e+12 2c 2 3+7 3+5 b+5 15+1b 1c+2 2 3+3 2+8",
  "18+b8 30+8 2+1 2+63 54+b 9+1 2+1 9 3 19 6 3+5 5 4+8 b+45 9+1 2b+7 5 5+1a 2+9 29+5 3+3 9+8 2+5 3+2",
  "2f+c 2+1 a+c 4a+6 b+56 2+2 2 2+57 23+d b+5 a 27+d 2 7+9 1e+2 21+18 2+6 2+1 2+4a 8 3 27+14 2+8 b+5 7",
  "3 26+3 3 2 2+6 b+5 2d+3 b+f5 14+1 5+8 10 25+7 3+2 18+55 2+e 33+c 39c+65 70 6+a c5+a4b 64+c 431+10",
  "7+18 f9c+4 248+1ab8 1f+b 4+2 b+6c5 23a+6 20 b+3 52 b+5 1f+6 2+9 31+6 10+9 b 8 16+4 14+1af 3b+c5 5c+4",
  "1a+1 1a+2b 4c+4 39+a e+3f 5+d 6+8 1cd7+28 21+60 74+21fc 5 8 3 124+e 2+1c 4+1 2+d 5+7 18d+903 6c+4",
  "e+2 a+6 b+1 2+1 2+f5f fe+2 1b5+5 18+e 12+5e 75+3b f7+9 28+1 3d+4 4+15 3+6 1f+3 3e+14 43+2 2+79 15+b",
  "15+b 58+8 1a+86 56 48 3+1 2+1 3+1 5 d 2 8 42 5+1 9 8 1d 5 6 2+2 8 155+1 125+1 233+36 5+31 9 f 8+473",
  "20+5 7+104 3f+91 2e+9 8+1 b+3 3+13f 1f+11 2d+3 b+4 2+1cf 1d+3 b+d5 1f+1 c+3 2+bf 20 4 3 8+1 6+8 3+df",
  "8 5 3 10 c6+1 a+2f 45+6 2+3 b+3 3+310 45+4b 3e+c1 5 1c 3 2+1 2 b 5 2 2+5 2+3 2+4/2 4 3 2+1 2+8/2 3",
  "2+1 5 8+a/5 2 b 12+4 4 6 12+33 3+10d 2d+3 65+b 10+1 10 10 26+9 af+37 1e+c 2d+3 a+6 3+d 7+99 3da+2",
  "12+2 e+2 db+5 d+3 2+e d+3 39+7 b+5 29+7 1f+1 d+3 3+d a+26 159+7 f+1 e+2 c+2 3a 2+3 11+1 d+3 b+6 94",
  "68+404 a6e1+1f 111f+1 168f+1 1d32+e 26f+9a1 21f+5e1 134c+4 212b+dcb85"]

def hiddenRuns : Array Run := readRuns hiddenRows

/-- A character that does not show as it is. -/
def isHidden (c : Char) : Bool :=
  c.toNat < 32 || listed hiddenRuns c

end Unicode
end TaskLifecycle
