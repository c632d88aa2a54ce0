import Switchboard.Unicode.CharSet

/-!
The general categories of characters.
-/

namespace Switchboard.Unicode

def categories : Table := [
  ⟨["lu", "uppercaseletter"],
    "41+19 66+16 2+6 22 2 2 2 2 2 2 2 2 2 2 2 2 2 2 2 2 2 2 2 2 2 2 2 2 2 2 2 3 2 2 2 2 2 2 2 3 2
    2 2 2 2 2 2 2 2 2 2 2 2 2 2 2 2 2 2 2 2 2 2+1 2 2 4+1 2 2+1 2+2 3+3 2+1 2+2 4+1 2+1 2 2 2+1
    2 3 2+1 2+2 2 2+1 4 8 3 3 3 2 2 2 2 2 2 2 3 2 2 2 2 2 2 2 2 3 3 2+2 2 2 2 2 2 2 2 2 2 2 2 2
    2 2 2 2 2 2 2 2 2 2 2 2 2 2 2 2 2 8+1 2+1 3 2+3 2 2 2 2 122 2 4 9 7 2+2 2 2+1 2+10 2+8 24
    3+2 4 2 2 2 2 2 2 2 2 2 2 2 6 3 2+1 3+32 31 2 2 2 2 2 2 2 2 2 2 2 2 2 2 2 2 a 2 2 2 2 2 2 2
    2 2 2 2 2 2 2 2 2 2 2 2 2 2 2 2 2 2 2 2+1 2 2 2 2 2 2 3 2 2 2 2 2 2 2 2 2 2 2 2 2 2 2 2 2 2
    2 2 2 2 2 2 2 2 2 2 2 2 2 2 2 2 2 2 2 2 2 2 2 2 2 2 2 2 2 3+25 b4a+25 2 6 2d3+55 894 7+2a
    3+2 141 2 2 2 2 2 2 2 2 2 2 2 2 2 2 2 2 2 2 2 2 2 2 2 2 2 2 2 2 2 2 2 2 2 2 2 2 2 2 2 2 2 2
    2 2 2 2 2 2 2 2 2 2 2 2 2 2 2 2 2 2 2 2 2 2 2 2 2 2 2 2 2 2 2 2 a 2 2 2 2 2 2 2 2 2 2 2 2 2
    2 2 2 2 2 2 2 2 2 2 2 2 2 2 2 2 2 2 2 2 2 2 2 2 2 2 2 2 2 2 2 2 2 2 2 a+7 9+5 b+7 9+7 9+5 c
    2 2 2 9+7 49+3 d+3 d+3 d+4 c+3 107 5 4+2 3+2 3 4+4 7 2 2 2+3 3+3 b+1 6 3e a7d+2f 31 2+2 3 2
    2 2+3 2 3 9+2 2 2 2 2 2 2 2 2 2 2 2 2 2 2 2 2 2 2 2 2 2 2 2 2 2 2 2 2 2 2 2 2 2 2 2 2 2 2 2
    2 2 2 2 2 2 2 2 2 2 9 2 5 794e 2 2 2 2 2 2 2 2 2 2 2 2 2 2 2 2 2 2 2 2 2 2 14 2 2 2 2 2 2 2
    2 2 2 2 2 2 88 2 2 2 2 2 2 4 2 2 2 2 2 2 2 2 2 2 2 2 2 2 2 2 2 2 2 2 2 2 2 2 2 2 2 2 2 2 b 2
    2+1 2 2 2 2 5 2 3 2 4 2 2 2 2 2 2 2 2 2 2+4 2+4 2 2 2 2 2 2 2 2+3 2 2+1 4 6 2 2 2 19 572c+19
    4c6+27 89+23 9d+a 2+e 2+6 2+1 6eb+32 9e+15 b3b+1f 5581+1f 65a1+19 1b+19 1b+19 1b 2+1 3 3+1
    3+3 2+7 1b+19 1b+1 2+3 3+7 2+6 1c+1 2+3 2+4 2 4+6 1c+19 1b+19 1b+19 1b+19 1b+19 1b+19 1f+18
    22+18 22+18 22+18 22+18 22 1136+21"⟩,
  ⟨["ll", "lowercaseletter"],
    "61+19 3b 2a+17 2+7 2 2 2 2 2 2 2 2 2 2 2 2 2 2 2 2 2 2 2 2 2 2 2 2 2 2 2 2+1 2 2 2 2 2 2 2
    2+1 2 2 2 2 2 2 2 2 2 2 2 2 2 2 2 2 2 2 2 2 2 2 2 3 2 2+2 3 2 3 4+1 5 3 4+2 3 3 2 2 3 2+1 2
    3 4 2 3+1 3+2 7 3 3 2 2 2 2 2 2 2 2+1 2 2 2 2 2 2 2 2 2+1 3 2 4 2 2 2 2 2 2 2 2 2 2 2 2 2 2
    2 2 2 2 2 2 2 2 2 2 2 2 2 2 2+6 3 3+1 2 5 2 2 2 2+44 2+1a c2 2 4 4+2 13 1c+22 2+1 4+2 2 2 2
    2 2 2 2 2 2 2 2 2+4 2 3 3+1 34+2f 2 2 2 2 2 2 2 2 2 2 2 2 2 2 2 2 2 a 2 2 2 2 2 2 2 2 2 2 2
    2 2 2 2 2 2 2 2 2 2 2 2 2 2 2 3 2 2 2 2 2 2+1 2 2 2 2 2 2 2 2 2 2 2 2 2 2 2 2 2 2 2 2 2 2 2
    2 2 2 2 2 2 2 2 2 2 2 2 2 2 2 2 2 2 2 2 2 2 2 2 2 31+28 b48+2a 3+2 2f9+5 883+8 2 76+2b 40+c
    2+21 67 2 2 2 2 2 2 2 2 2 2 2 2 2 2 2 2 2 2 2 2 2 2 2 2 2 2 2 2 2 2 2 2 2 2 2 2 2 2 2 2 2 2
    2 2 2 2 2 2 2 2 2 2 2 2 2 2 2 2 2 2 2 2 2 2 2 2 2 2 2 2 2 2 2 2+8 2 2 2 2 2 2 2 2 2 2 2 2 2
    2 2 2 2 2 2 2 2 2 2 2 2 2 2 2 2 2 2 2 2 2 2 2 2 2 2 2 2 2 2 2 2 2 2 2 2+8 9+5 b+7 9+7 9+5
    b+7 9+7 9+d 3+7 9+7 9+7 9+4 2+1 7 4+2 2+1 9+3 3+1 9+7 b+2 2+1 113 4+1 4 1c 5 5 3+1 9+3 5 36
    aac+2f 2 4+1 2 2 2 5 2+1 2+5 6 2 2 2 2 2 2 2 2 2 2 2 2 2 2 2 2 2 2 2 2 2 2 2 2 2 2 2 2 2 2 2
    2 2 2 2 2 2 2 2 2 2 2 2 2 2 2 2 2 2+1 8 2 5 d+25 2 6 7914 2 2 2 2 2 2 2 2 2 2 2 2 2 2 2 2 2
    2 2 2 2 2 14 2 2 2 2 2 2 2 2 2 2 2 2 2 88 2 2 2 2 2 2+2 2 2 2 2 2 2 2 2 2 2 2 2 2 2 2 2 2 2
    2 2 2 2 2 2 2 2 2 2 2 2 2 2+7 2 2 3 2 2 2 2 5 2 3 2+2 2 2 2 2 2 2 2 2 2 2 6 6 2 2 2 2 2 2 2
    5 2 3 4 2 2 2 2 2 1b 4 336+2a 6+8 8+4f 4f41+6 d+4 42a+19 4ce+27 89+23 9c+a 2+e 2+6 2+1
    704+32 7e+15 b3b+1f 5581+1f 659b+19 1b+6 2+11 1b+19 1b+3 2 2+6 2+a 1b+19 1b+19 1b+19 1b+19
    1b+19 1b+19 1b+19 1b+19 1b+1b 1d+18 2+5 1b+18 2+5 1b+18 2+5 1b+18 2+5 1b+18 2+5 2 735+9 2+13
    7+5 9f8+21"⟩,
  ⟨["lt", "titlecaseletter"],
    "1c5 3 3 27 1d96+7 9+7 9+7 d 10 30"⟩,
  ⟨["lm", "modifierletter"],
    "2b0+11 5+b f+4 8 2 86 6 1df e7 a5+1 10e+1 5 20 a 4 a1 a8 4d5 80 236 6db 6c 264 1d1+5 af+3e e
    23+24 2b2 e 11+c be0+1 f2 c0 1d6 2c+4 6 62+1 5e+2 6f17 4e3+5 10f 73 1d+1 7a+8 51 18 6a+2 4+1
    1d6 17 8a 6d 16+1 68+3 a 5407 2e+1 7e1+5 2+29 2+8 594 21 5dd1+3 1fd+2 29+1 227+c 41+1 2
    400d+3 2+6 2+1 3032+3d ca+6 3ae 460"⟩,
  ⟨["lo", "otherletter"],
    "aa 10 101 5+3 d1 33c+1a 5+3 2e+1f 2+9 24+1 2+62 2 19+1 b+2 3 11 2+1d 1e+58 c 19+20 16+15
    2b+18 8+a 6+17 2+5 12+28 3c+35 4 13 8+9 11+e 5+7 3+1 3+15 2+6 2 4+3 4 11 e+1 2+2 f+1 b 9+5
    5+1 3+15 2+6 2+1 2+1 2+1 20+3 2 14+2 11+8 2+2 2+15 2+6 2+1 2+4 4 13 10+1 18 c+7 3+1 3+15 2+6
    2+1 2+4 4 1f+1 2+2 10 12 2+5 4+2 2+3 4+1 2 2+1 4+1 4+2 4+b 17 35+7 2+2 2+16 2+f 4 1b+2 3 3+1
    1f 5+7 2+2 2+16 2+9 2+4 4 20+1 2+1 10+1 12+8 2+2 2+28 3 11 6+2 9+2 19+5 6+11 4+17 2+8 2 3+6
    3b+2f 2+1 d+5 3c+1 2 2+4 2+17 2 2+9 2+1 a 3+4 18+3 21 40+7 2+23 1c+4 74+2a 15 11+5 5+3 4 4+1
    8+2 5+c d 72+148 2+3 3+6 2 2+3 3+28 2+3 3+20 2+3 3+6 2 2+3 3+e 2+38 2+3 3+42 26+f 72+26b
    3+10 2+19 6+4a 7+7 8+11 e+12 f+11 f+c 2+2 10+33 29 44+22 2+34 8+4 3+21 2 6+45 b+1e 32+1d 3+4
    c+2b 5+19 37+16 a+34 b1+2e 12+7 37+1d e+1 b+2b 1b+23 2a+2 b+1d 72+3 2+5 2+1 4 43b+3 bf8+37
    19+16 a+6 2+6 2+6 2+6 2+6 2+6 2+6 2+6 228 36 5+55 9 2+59 5 6+2a 2+5d 12+1f 31+f 201+19bf
    41+5214 2+476 44+27 9+10b 5+f b+1 43 32+45 aa 68 4+6 2+2 2+3 2+16 1e+33 f+31 3f+5 4 2+1 c+1b
    b+16 1a+1c 8+2e 2e+4 3+8 b+4 2+28 18+2 2+7 15+f 2+5 4 4+31 2 4+1 3+4 3 2 19+1 4+a 8 f+5 3+5
    3+5 a+6 2+6 92+22 1e+2ba3 d+16 5+30 2105+16d 3+69 44 2+9 2+c 2+4 2 2+1 2+1 2+6b 22+16a 13+3f
    3+35 29+b 75+4 2+86 6a+9 2+2c 3+1e 4+5 3+5 3+5 3+2 24+b 2+19 2+12 2+1 2+e 3+d 23+7a 186+1c
    4+30 30+1f e+13 2+7 7+25 b+1d 3+23 5+7 81+4d 63+27 9+33 5d+33 d+136 a+15 b+7 99+5 3 2+2b 2+1
    4 3+16 b+16 a+1e 42+12 2+1 b+15 b+19 47+37 7+1 41 10+3 2+2 2+1c 2b+1c 4+1c 24+7 2+1b 1c+35
    b+15 b+12 e+11 6f+48 b8+23 27+3 2 131+29 7+1 11+2 3c+1c b 9+15 2b+11 2f+14 1c+16 d+34 3a+1 3
    e+2c 21+18 1b+23 1e 3 9+22 4 d+2f f+3 16 2 24+11 2+18 14+1 40+6 2 2+3 2+e 2+9 8+2e 27+7 3+1
    3+15 2+6 2+1 2+4 4 13 d+4 1f+9 2 3 2+25 2 1a 2 2d+34 13+3 15+2 1f+2f 15+1 2 b9+2e 2a+3 25+2f
    15 3c+2a e 48+1a 26+6 ba+2b d4+7 3 3+7 2+1 2+17 10 2 5f+7 3+26 11 2 1d b+27 8 16 c+2d 14
    13+48 c8+20 20+8 2+24 12 32+1d 71+6 2+1 2+25 16 1a+5 2+1 2+1f f 148+12 10 2+c 2+21 7d 50+399
    e7+c3 a4d+60 10+42f 12+5 1a+f9a 6+246 1aba+1d 6e3+238 8+1e 12+4e 12+1d 13+2f 34+14 6+12
    1b4+27 196+4a 6 b0+17f7 9+4d5 2a+9 22f8+122 10 1e+2 3 f+3 9+18b 905+6a 6+c 4+8 8+9 2271
    1f6+2c 22 142+1d 13+2b 1e5+1a e6+1d 3 1f0+6 2+3 2+1 2+e 2+c4 53c+3 2+1a 2+1 2 3 2+9 2+3 2 2
    7 5 2 2 2+2 2+1 2 3 2 2 2 2 2+1 2 3+3 2+6 2+3 2+3 2 2+9 2+10 6+2 2+4 2+10 1145+a6df 21+1039
    7+dd 3+1681 f+1d30 10+26d 9a3+21d 5e3+134a 6+105f"⟩,
  ⟨["mn", "nonspacingmark"],
    "300+6f 114+4 10a+2c 2 2+1 2+1 2 49+a 31+14 11 66+6 3+5 3+1 2+3 24 1f+1a 5c+a 3b+8 a 19+3 2+8
    2+2 2+4 2c+2 3c+8 2b+17 2+1f 38 2 5+7 5 4+6 b+1 1e 3b 5+3 9 15+1 1b 3+1 3a 5+1 5+1 3+2 4
    1f+1 4 c+1 3a 5+4 2+1 5 15+1 17+5 2 3b 3 2+3 9 8+1 c+1 1f 3e d 33 4 38 2+2 6+2 2+3 8+1 c+1
    1e 3b 3 7 6+1 15+1 1d+1 3a+1 5+3 9 15+1 1e 49 8+2 2 5b 3+6 d+7 63 3+8 c+6 4a+1 1c 2 2 38+d
    2+4 2+1 6+a 2+23 a 67+3 2+5 2+1 3+1 1a+1 5+2 11+3 e 3+1 7 10 2c0+2 3b3+2 1e+1 1f+1 1f+1 41+1
    2+6 9 3+a a 2e+2 2 76+1 23 77+2 5+1 a 7+2 dc+1 3 3b 2+6 2 2 3+7 7+9 3 31+d 2+f 32+3 31 2+4 2
    6 29+8 d+1 21+3 3+1 2+2 39 2+1 4 2+2 3b+7 3+1 99+2 2+c 2+6 5 7 4+1 c7+3f 2d1+c 5 4+b bff+2
    8e 61+1f 22b+3 6c+1 75d5 5+9 21+1 51+1 111 4 5 1a+1 6 98+1 1b+11 e 27+7 1a+a 2f+2 31 3+3 3+1
    28 44+5 3+1 3+1 d 9 30 34 2+2 3+1 6+1 2 2b+1 9 ef 3 5 4f31 2e2+f 11+f 3ce e3 96+4 687+2 2+1
    6+3 29+2 5 a6+1 23e+3 42+4 13e+1 50+3 47+a 32+3 7c 37+e 2a 3+1 b+2 32+3 3+1 8 3e+2 25+4 2+7
    3f d+1 35+8 b+3 3 60+2 3 2+1 7 3 9e 4+7 16+1 3a+1 4 26+6 4+4 47+5 e 2 2 f+1 56+7 3+2 2 18
    55+5 2 5+1 2+1 ef+3 7+1 2+1 1c+1 56+7 3 2+1 6b 2 3+5 2 66 2 3+3 2+4 104+8 2+1 101+1 2 5 91+3
    3+1 5 21+9 29+5 3+3 9 a+5 3+2 2f+c 2+1 197+6 2+5 2 53+15 3+6 2+1 2+1 7b+5 4 2+1 2+6 2 49+1 4
    2 15c+1 c+1 35+4 6 2 18 14e6 7+e 2cc9+b 4+2 9c1+4 3c+6 419 40+3 52 4cb9+1 1262+2d 3+16 221+2
    12+7 3+6 1f+3 95+2 7bc+36 5+31 9 f 17+4 2+e 551+6 2+10 3+6 2+1 2+4 65 a1+6 178 3e+3 1fd+3
    ff+1 2e1+6 6e+6 c17b6+ef"⟩,
  ⟨["mc", "spacingmark"],
    "903 38 3+2 9+3 2+1 33+1 3b+2 7+1 3+1 b 2c 3b+2 43 3b+2 9 2+1 36+1 3b 2 7+1 3+1 b 67+1 2+1
    4+2 2+2 b 2a+2 3e+3 3e+1 3b 2+4 3+1 2+1 a+1 1d f+1 3b+2 6+2 2+2 b 2b+1 4c+2 7+7 13+1 14b+1
    40 ac+1 5 7 3+1 1a+1 b+2 3+6 16+1 3+5 3 b+2 679 1f 82 8+7 2+1 15b+3 3+2 5+1 2+5 e1+1 3b 2 a
    2+1 9+5 92 31 6 2+4 2+1 3e 1f 5+1 3 3d 3+2 2 4+1 31+7 9+1 ac 16 1337+1 77f4+1 3 59+1 33+f
    8f+1 30 31+1 5+1 3+2 6f+1 3+1 19 2e 2 6e 3+1 6 ee+1 2+1 2+1 2 6414 2 80 2e+2 5+1 74 19+1 3c
    31+2 a+1 e 5e+2 4+1 2 ab+2 20+1 3b+1 2+3 3+1 3+2 a b+1 55+2 8 3 2+3 2+1 2 66+2 9+1 4 6b+2 7
    2+3 3 ee+2 7+3 3 72+2 9+1 2 6e 2+1 7 68 2+1 5 106+2 a f8+5 2+1 5 3 2 8f+2 9+3 5 55 1e+1 3f
    198 f 6b 8 3 d6+4 5+1 2 15f+1 d 31+1 9+1 2 41e9+2 e25+36 69+1 6174+1 7+5"⟩,
  ⟨["me", "enclosingmark"],
    "488+1 1635 61f+3 2+2 858c+2"⟩,
  ⟨["nd", "decimalnumber", "digit"],
    "30+9 627+9 87+9 c7+9 19d+9 77+9 77+9 77+9 77+9 77+9 77+9 77+9 77+9 77+9 61+9 77+9 47+9 117+9
    47+9 747+9 27+9 12d+9 81+9 a7+9 7+9 b7+9 57+9 87+9 7+9 89c7+9 2a7+9 27+9 c7+9 17+9 57+9
    197+9 5317+9 587+9 887+9 7+9 31d+9 81+9 3d+9 91+9 117+9 157+9 77+9 177+9 67+9 7+13 4d+9
    1a7+9 67+9 297+9 57+9 f7+9 47+9 1a7+9 41d7+9 927+9 57+9 87+9 217+9 5f77+9 ad5+31 941+9 1a7+9
    1f7+9 f8+9 356+9 1297+9"⟩,
  ⟨["nl", "letternumber"],
    "16ee+2 a70+22 3+3 e7f 1a+8 f+2 76ac+9 5a51+34 1cd 9 87+4 202b+6e"⟩,
  ⟨["no", "othernumber"],
    "b2+1 6 3+2 936+5 179+5 79+2 86+6 da+6 12+8 1b2+9 436+13 474+9 1e1 696 4+5 7+9 c7+f 2a 2d7+3b
    4f+15 277+1d 56a 495+3 8b+9 1f+7 2+e 21+9 28+e 7571+5 58d2+2c 42+3 12+1 156+1a 25+3 535+7
    1a+6 28+8 4c+4 17+5 a1+1 3+f 3+2d 41+8 35+1 1f+2 4c+4 69+7 19+7 2a+6 14b+5 161+1e 9f+9 2b+3
    71+6 87+13 17c+13 546+1 1af+8 368+12 354+14 4b87+6 31f+16 642a+13 d+13 6d+18 154f+8 3a2+3a
    2+2 2+3 4d+2c 2+e 3c3+c"⟩,
  ⟨["pc", "connectorpunctuation"],
    "5f 1fe0+1 14 dddf+1 19+2 f0"⟩,
  ⟨["pd", "dashpunctuation"],
    "2d 55d 34 e42 406 80a+5 e02 3 20+1 5 1d 1bf 14 70 cd91+1 26 b aa e61 13f"⟩,
  ⟨["ps", "openpunctuation"],
    "28 33 20 ebf 2 75f 97f 4 27 38 10 27b 2 1f 43f 2 2 2 2 2 2 51 21 2 2 2 2 195 2 2 2 2 2 2 2 2
    2 2 41 2 22 426 2 2 2 1a 13 2 2 2 1ad 2 2 2 2 4 2 2 2 3 cd22 d8 1e 2 2 2 2 2 2 2 4 12 2 2 ab
    33 20 4 3"⟩,
  ⟨["pe", "closepunctuation"],
    "29 34 20 ebe 2 75f 9aa 38 10 27b 2 1f 43f 2 2 2 2 2 2 51 21 2 2 2 2 195 2 2 2 2 2 2 2 2 2 2
    41 2 22 426 2 2 2 2d 2 2 2 1ad 2 2 2 2 4 2 2 2 3+1 cd1f da 1e 2 2 2 2 2 2 2 4 12 2 2 ab 34
    20 3 3"⟩,
  ⟨["pi", "initialpunctuation"],
    "ab 1f6d 3+1 3 1a dc9 2 5 3 10 4"⟩,
  ⟨["pf", "finalpunctuation"],
    "bb 1f5e 4 1d dc9 2 5 3 10 4"⟩,
  ⟨["po", "otherpunctuation"],
    "21+2 2+2 3 2 2+1 b+1 4+1 1c 45 6 f+1 8 2bf 9 1d3+5 2a 37 3 3 2d+1 15+1 2+1 e 2+2 4b+3 67
    2c+d ea+2 37+e 20 106+1 b 8d 79 7a 187 d 170 5b b+1 a9+e 2 71 4b+4 5+1 70+5 ac 265+8 306
    7d+2 48+1 9e+2 2+2 26+5 2+3 13a+1 d9+1 81+6 2+5 a1+1 b+6 1d+2 7d+3 3c+4 3f+1 41+7 c 343+1
    9+7 9+8 3+3 3+2 4+a 2 2+9 c9b+3 2+1 71 90+1 5+2 3 3+8 2+1 2 3+1 b+4 2+9 3+3 2 2+c 3+2 1ad+2
    3a be 7403+1 10e+2 64 b 74+5 17d+3 57+1 29+2 2 32+1 30 62+c 11+1 7d+3 7f+1 11+1 fa 5225+6 3
    17 15+1 3+3 4+2 2+3 8+2 7 2+1 96+2 2+2 3 2 2+1 b+1 4+1 1c 25 3+1 19b+2 29d 31 19f 2e8 c8 20
    111+8 27 71+6 43+6 5a+3 3b9+4 2d+3 be+6 6e+1 2+3 7f+3 31+1 50+3 5 e 2+2 59+5 6c 12b+1 2+1
    73+4 b+1 2 69 fb+16 6a+2 1d+c 4d 83+2 fd 109+2 9c 5d+7 54+2 2+4 5e+9 d8 60+4 2b+1 286+1 4b+c
    b0 471+4 b7d+1 3a7c+1 86 42+4 9 229+2 128+3 148 4cbd 1de8+4 b74 35f+1"⟩,
  ⟨["sm", "mathsymbol"],
    "2b 11+2 3e 2 2e 5 26 20 2ff 210+2 1a3c e 28+2 e+2 8c 28+4 7 45+4 6+1 5 3 3 8 20+1 3 2 20+10b
    21+1 5b 1f+18 29+5 1d6 a 37+7 70 151+4 3+1e b+f 101+82 17+3e 5+1f 3+101 31+14 3+5 cfdd 339
    2+2 a5 11+2 3e 2 84 7+3 da2+1 c932 1a 20 1a 20 1a 20 1a 20 1a 172d+1"⟩,
  ⟨["sc", "currencysymbol"],
    "24 7e+3 4ea 7c 1f3+1 1f3+1 8 f6 108 246 99c 8c5+20 8778 55c4 6d 9b dc+1 4+1 1ff7+3 c31f 9b1"⟩,
  ⟨["sk", "modifiersymbol"],
    "5e 2 48 7 5 4 20a+3 d+d 6+6 2 2+10 76 f+1 503 1735 2+2 c+2 e+2 e+2 e+1 109d+1 7664+16 a+1
    68+1 3d1 f+1 5047+10 37c 2 a3 f418+4"⟩,
  ⟨["so", "othersymbol"],
    "a6 3 5 2 3d2 10b+1 80+1 cf b 14+1 f8 204 176 83+5 2 85 d0 2a 188+2 10 2+2 3+5 15 2 2 86+7
    2+5 2+1 6+3 c6+1 2f1+9 2d4 2d3 9e+21 162+9 a+8 584+1 2+3 2+1 b 2+1 7+5 2 2 2 5 c+1 f 2+1 2
    3b+1 a+4 3+3 2+1 2+1 2+6 2+1e 3+1 2 2+1e 10d+7 5+13 3+6 3+50 2+1d 1a+27 7+47 17+a 52+4d
    17+b6 2+8 2+35 9+6e 2+f7 2d+2b 41+ff 201+2f 16+1 7+26 3+1f 2+68 e6+5 166+1 2f+19 2+58 d+d5
    1b+f 5 e+1 d 16+1 7+1 151+1 5+9 21+25 a 11+1e c+1d 9 10+1f b+26 10+13f 19c1+3f 5691+36 362+3
    b+1 2 23e+2 52c7+f 80 2e+2 1e5 4 5+1 e+1 13a+8 3a+10 3+2 2+c 4 30+2c 67b+1 250 c77 896+7
    5+10 4b4b+3 6 5157 f64+ef 11+1b3 9d+73 3d+f5 b+26 3+3b 6+2 17+1 8+1d 5+3c 16+41 4 bb+56
    4aa+1ff 38+3 33+7 2+d 2+1 6c9 b5d 82 2d2+2b 5+63 d+e 3+e 2+e 2+24 18+a0 39+1c e+2b 5+8 8+1
    f+5 9b+fa 6+2d7 5+10 4+c 4+76 5+5e 7+b 5 10+b 5+37 9+9 7+27 9+1d 3+b 5+1 3f+153 d+d 3+c 4+9
    6+37 8+e 3+a 7+8 8+92 2+5b"⟩,
  ⟨["zs", "spaceseparator"],
    "20 80 15e0 980+a 25 30 fa1"⟩,
  ⟨["zl", "lineseparator"],
    "2028"⟩,
  ⟨["zp", "paragraphseparator"],
    "2029"⟩,
  ⟨["cc", "control", "cntrl"],
    "0+1f 60+20"⟩,
  ⟨["cf", "format"],
    "ad 553+5 17 c1 32 181+1 51 f2c 7fd+4 1b+4 32+4 2+9 de90 fa+2 10c2 10 2363+f 8861+3 14d0+7
    c2e87 1f+5f"⟩,
  ⟨["co", "privateuse"],
    "e000+18ff e0701+fffd 3+fffd"⟩,
  ⟨["cn", "unassigned"],
    "378+1 7+3 8 2 15 18e 27+1 33+1 4 38+7 1c+3 7+a 10f 3d+1 66+d 3c+1 32+1 10 1d+1 2 c+4 20 3+4
    ee 9+1 3+1 17 8 2+2 5+1 a+1 3+1 5+7 2+3 3 6+1 1a+1 4 7+3 3+1 17 8 3 3 3+1 2 6+3 3+1 4+2 2+6
    5 2+6 12+9 4 a 4 17 8 3 6+1 b 4 4+1 2+e 5+1 d+6 8 4 9+1 3+1 17 8 3 6+1 a+1 3+1 4+6 4+3 3 6+1
    13+9 3 7+2 4 5+2 3 2 3+2 3+2 4+2 d+3 6+2 4 5+1 2+5 2+d 16+4 e 4 18 11+1 a 4 5+6 3 4+1 2+1
    5+1 b+6 17 4 18 b 6+1 a 4 5+6 3+5 3 5+1 b 4+b e 4 34 4 7+3 11+1 1b 4 13+2 19 a 2+1 8+2 2+3 7
    2 9+5 b+1 4+b 3b+3 1e+24 3 2 6 19 2 18+1 6 2 8 b+1 5+1f 49 25+3 28 25 10 e+24 c7 2+4 2+1 17a
    5+1 8 2 5+1 2a 5+1 22 5+1 8 2 5+1 10 3a 5+1 44+1 21+2 1b+5 57+1 7+1 29e+2 5a+6 17+8 19+8
    15+b e 4 3+b 5f+1 b+5 b+5 1b+5 5a+6 2c+4 47+9 20 d+3 d+3 2+2 2b+1 6+a 2d+3 1b+5 c+2 3f+1 42
    1e+1 c+5 b+5 f+1 20+30 4e a7+7 3d+2 10+2 3f+4 2c+1 c+7 2c+4 217+1 7+1 27+1 7+1 9 2 2 2 20+1
    36 10 f+1 7 14+1 4 a 66 d+1 1c e+2 22+e 22+e 8d+3 29b+15 c+14 715+1 21 15e+4 2e 2+4 2+1 39+6
    3+d 19+8 8 8 8 8 8 8 8 8 7f+21 1b 5a+b d7+19 51 57+1 68+4 2c 5f 57+8 31 726e+2 38+8 15d+13
    b9+7 cf+1 3 2 9+14 3c+2 b+5 39+7 47+7 d+5 75+a 1f+2 4f c+3 22 38+8 f+1 b+1 68+17 1d+9 7+1
    7+1 7+8 8 8 3d+3 7f+1 b+5 2ba5+b 18+3 32+3 226f+1 6b+25 8+b 6+4 1b 6 2 3 3 7e+f 1be+1 37+6
    2+1f 2b+5 34 14 5+3 6 88+1 2 bf+2 7+1 7+1 7+1 4+2 8 8+9 6+1 d 1b 14 3 10+1 f+21 7c+4 4+3
    2e+2 59 e+2 2+2e 2f+81 1e+2 32+e 1d+3 25+8 1f+4 2c+4 1f 26+3 f+29 9f+1 b+5 25+3 25+3 29+7
    35+a d 10 8 3 c 10 8 3+2 35+b 138+8 17+9 9+17 7 2b a+44 7+1 2 2d 3+2 2+1 18 49+7 a+2f 14 3+4
    22+2 1c+4 2+3f 39+3 15+1 33 3+4 9 4 1e+1 4+3 b+6 a+6 41+1f 28+3 d+8 37+2 1e+1 1c+4 1b+6 5+b
    8+4f 4a+36 34+c 34+6 2f+7 b+5 27+2 1e+7 3+cf 20 2b 4+1 3+f 4+36 2d+7 2b+15 1b+25 1d+13 18+8
    4f+3 25+8 45+9 2+1 1a+6 b+5 36 13+7 28+8 61 15+a 13 30+3d 8 2 5 10 c+5 3c+4 b+5 5 9+1 3+1 17
    8 3 6 b+1 3+1 4+1 2+5 2+4 8+1 8+2 6+a b 2+1 2 27 b 2+1 2 5 b 3+7 3+1c 5d 6+1d 49+7 b+a5 37+1
    27+21 46+a b+5 e+12 3b+5 b+5 15+1b 1c+1 10+3 18+b8 3d+63 54+b 9+1 2+1 9 3 1f 3+1 d+8 b+45
    9+1 2f+1 c+1a 49+7 54+c 4a+6 b+b5 23+d b+5 a 2e f+9 1e+2 21+1 17 f+48 8 3 2d+2 2 3 a+7 b+5 7
    3 26 3 7+6 b+135 1a+6 12 2a+2 1e+54 2+e 33+c 39c+65 70 6+a c5+a4b 64+c 457+9 f9c+4 248+1ab8
    3b+6c5 23a+6 20 b+3 52 b+5 1f+1 7+9 47+9 b 8 16+4 14+1af 3b+c5 5c+64 4c+3 3a+6 12+3f 6+a 3+d
    17f9+7 4d7+28 b+22e6 5 8 3 124+e 2+1c 4+1 2+d 5+7 18d+903 6c+4 e+2 a+6 b+1 9+f5b fb+5 1b5+4b
    2f+1 18+8 75+3b f7+9 28+1 c3+14 47+79 15+b 15+b 58+8 1a+86 56 48 3+1 2+1 3+1 5 d 2 8 42 5+1
    9 8 1d 5 6 2+2 8 155+1 125+1 2bf+e 6 10+44f 20+5 7+d4 8 12+1 8 3 6+4 3f+20 2+6f 2e+2 f+1 b+3
    3+13f 20+10 3b+4 2+1cf 2b+d5 2c+3 2+1df 8 5 3 10 c6+1 11+28 4d+3 b+3 3+310 45+4b 3e+c1 5 1c
    3 2+1 2 b 5 2 2+5 2+3 2 2 2 4 3 2+1 2 2 2 2 2 3 2+1 5 8 5 5 2 b 12+4 4 6 12+33 3+10d 2d+3
    65+b 10+1 10 10 26+9 af+37 1e+c 2d+3 a+6 3+d 7+99 3d9+3 12+2 e+2 78+3 60+5 d+3 2+e d+3 39+7
    b+5 29+7 1f+1 d+3 3+3d 155+b f+1 e+2 b+4 39+6 10+1 c+5 a+6 94 67+405 a6e1+1f 103b+5 df+1
    1683+d 1d32+e 26f+9a1 21f+5e1 134c+4 1061+adc50 2+1d 61+7f f1+fe0f ffff+1 ffff+1"⟩]

end Switchboard.Unicode
