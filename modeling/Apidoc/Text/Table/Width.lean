import Apidoc.Text.Ranges

/-!
# Widths of characters

Code points that take two cells on a terminal, and those that take none: control characters and marks that
do not advance.  All others take one.
-/

namespace Apidoc.Text.Table

def wide : Ranges :=
  Ranges.ofText
    "1100-5f 11bb-1 e-1 bf-3 4 3 20a-1 16-1 33-b 2c 14 e 9-1 12-1 6-1 9 6 16 8-1 2 5 3 8 5-1 1d 24 2 5-2 2 3e-2 19 f
   35c-1 34 5 32b-19 2-58 d-d5 1b-39 7-e 3-55 5-64 6-2a 2-5d 2-53 c-2f 2-27 9-1b6f 41-568c 4-36 49a-1c 284-2ba3
   215d-1ff 311-9 17-22 2-12 2-3 96-5f 80-6 6ffa-3 1d-17f7 9-4d5 2b-8 22e8-3 2-6 2-1 2-122 10 1e-2 3 f-3 9-18b 3d09 cb
   bf 3-9 66-2 e-2b 5-8 8-1 f-5 9b-20 d-8 2-45 2-15 d-2a 5-4 d-10 4 4-2 6-3e 2 2-ba 3-3e e-3 2-17 13 1b-1 e 57-54 31-45
   7 4-2 3-2 5-3 c-1 8-8 e4-b 5 11c-2e 2-9 2-b8 71-c 4-8 8-2d 2-6 9-d 5-8 8-8 508-fffd 3-fffd"

def weightless : Ranges :=
  Ranges.ofText
    "0 1-1e 60-20 e 253-6f 114-6 108-2c 2 2-1 2-1 2 39-5 b-a 2 2f-14 11 66-7 2-5 3-1 2-3 22 2 1f-1a 5c-a 3b-8 a 19-3
   2-8 2-2 2-4 2c-2 35-1 7-7 2b-39 37-2 2-11 2-6 b-1 1e-2 39 2-6 3-1 3-2 a b-1 1b 3-2 39 2-4 5-1 3-2 4 1f-1 4 c-2 39
   2-7 2-2 2-2 15-1 17-5 2-2 39 2-6 3-1 3-2 8-2 b-1 1f 3c-4 4-2 2-3 a 29-4 38 2-6 2-2 2-3 8-1 c-1 1e-2 39 2-6 2-2 2-3
   8-1 c-1 10 d-3 38-1 2-6 2-2 2-3 a b-1 1e-2 47 5-5 2 2-7 13-1 3e 3-6 d-7 63 3-8 c-6 4a-1 1c 2 2 5-1 32-13 2-1 6-a
   2-23 a 65-13 18-3 5-2 2-2 3-6 4-3 e-b 2 b-3 c3-9f 15e-2 3b3-3 1d-2 1e-1 1f-1 41-1f a 2e-4 76-1 23 77-b 5-b dc-4 3a-9
   2-1c 3 31-1e 32-4 30-10 27-8 d-2 1f-c 39-d 31-13 99-2 2-14 5 7 3-2 c7-3f 20c-4 19-6 32-4 2-9 61-20 bff-2 8e 61-1f
   22b-5 6a-1 75d5-3 2-9 21-1 51-1 111 4 5 18-4 5 54-1 33-11 1b-11 e 27-7 1a-c 2d-3 30-d 25 44-d d 9-1 2e-2 33 2-2 3-1
   6-1 2 2a-4 6-1 ed-7 2-1 2bc3-4f 231f 2e2-f 11-f d0 fa-2 202 e3 96-4 687-2 2-1 6-3 29-2 5 a6-1 23e-3 184-1 51-2 47-a
   32-3 7b-2 36-e 2a 3-1 b-3 2e-a 3 5 b 33-2 25-d 11-1 2d d-2 31-d 9-3 2-1 5d-b 7 3 9e-b 16-3 38-1 2-6 3-1 3-2 a b-1
   3-6 4-4 c1-11 18 52-13 ec-6 3-8 1c-1 53-10 6b-c 66-e 101-e f6-5 2-1 3-3 2 2-1 8e-6 3-6 4 1d-9 29-6 2-3 9 a-a 2f-f
   196-7 2-7 53-15 2-d 7b-5 4 2-1 2-6 2 43-4 2-1 2-4 15c-3 a-1 2 31-6 4-4 14ee-10 7-e 369b-4 3c-6 419 2-36 8-3 52 c-1
   4cac-1 2-3 125d-2d 3-16 21f-4 4-15 3-6 1f-3 95-2 7bc-36 5-31 9 f 17-4 2-e 551-6 2-10 3-6 2-1 2-4 65 a1-6 178 3e-3
   1fd-3 3e1-6 6e-6 ab1-4 c0c02 1f-5f 81-ef"

end Apidoc.Text.Table
