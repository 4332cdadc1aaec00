import JarAtlas.Text.Quoted

/-!
# JSON strings

A JSON string is a text, or it is broken: an escape can write one half of a surrogate pair, and a
half that stands without the other is no character. A broken string is given by the code points that
it writes. It can be compared and quoted, but it names nothing in a file system unless its halves
stand for bytes.
-/

namespace JarAtlas

/-- A string of a JSON value. -/
inductive JsonString
  | text (value : Text)
  | broken (codes : List Nat)
deriving DecidableEq, Repr

/-- A text may be written where a JSON string is expected. -/
instance : Coe Text JsonString := ⟨.text⟩

namespace JsonString

/-- The code point of one half of a surrogate pair. -/
def isSurrogate (code : Nat) : Bool := 0xD800 ≤ code && code < 0xE000

/-- The string of code points: a text if they all are characters. -/
def ofCodes (codes : List Nat) : JsonString :=
  if codes.any isSurrogate then broken codes else text (codes.map Char.ofNat)

/-- The code points of a string. -/
def codes : JsonString → List Nat
  | text value => value.map Char.toNat
  | broken codes => codes

/-- The character of a code point; a surrogate has the replacement character. -/
def characterOf (code : Nat) : Char := if isSurrogate code then '\uFFFD' else Char.ofNat code

/-- The string in running text, where a surrogate cannot stand. -/
def display : JsonString → Text
  | text value => value
  | broken codes => codes.map characterOf

/-- The string in quotes, a surrogate as an escape. -/
def quoted : JsonString → Text
  | text value => Text.quoted value
  | broken codes =>
    let quote := Text.quoteFor (codes.map characterOf)
    let shown (code : Nat) : Text :=
      if isSurrogate code then "\\u" ++ Text.hexadecimal 4 code
      else Text.escapeQuoted quote (Char.ofNat code)
    quote :: codes.flatMap shown ++ [quote]

/-- A surrogate that stands for a byte which is part of no character. -/
def standsForByte (code : Nat) : Bool := 0xDC80 ≤ code && code ≤ 0xDCFF

/-- A run of code points that cannot be written as bytes: the first of them, its position, and the
position of the last. -/
structure Obstacle where
  code : Nat
  first : Nat
  last : Nat
deriving DecidableEq, Repr

/-- The run with `count` more code points in front. -/
def Obstacle.behind (count : Nat) (obstacle : Obstacle) : Obstacle :=
  { obstacle with first := count + obstacle.first, last := count + obstacle.last }

/-- The first run of surrogates that cannot be written as bytes. Those that stand for bytes at the
start of a run can. -/
def obstacle? (codes : List Nat) : Option Obstacle :=
  let before := codes.takeWhile fun code => !isSurrogate code || standsForByte code
  match codes.drop before.length with
  | [] => none
  | code :: rest =>
    some
      { code
        first := before.length
        last := before.length + (rest.takeWhile isSurrogate).length }

end JsonString

end JarAtlas
