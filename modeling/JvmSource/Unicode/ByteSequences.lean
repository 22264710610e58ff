import JvmSource.Unicode.Ranges

/-!
# Ranges of characters in UTF-8

The characters between two code points, encoded in UTF-8, are those that match one of a few
sequences of byte ranges. Code points are cut into digits of six bits, of which all but the first
make a continuation byte each.
-/

namespace JvmSource.Unicode

/-- A sequence of byte ranges, which stands for the byte strings that lie in them place by place. -/
abbrev ByteSequence := List (Nat × Nat)

/-- The sequences of digit ranges for the numbers from `first` to `last`, which have `count` digits
of six bits after the first digit. -/
def digitSequences : (count : Nat) → (first last : Nat) → List ByteSequence
  | 0, first, last => [[(first, last)]]
  | count + 1, first, last =>
    let size := Nat.pow 64 (count + 1)
    let lead := first / size
    let lead' := last / size
    let led (lead : Nat) (first last : Nat) :=
      (digitSequences count first last).map ((lead, lead) :: ·)
    if lead = lead' then led lead (first % size) (last % size)
    else
      -- the numbers that share the first digit with an end, unless that is all of them
      let head := if first % size = 0 then [] else led lead (first % size) (size - 1)
      let tail := if last % size = size - 1 then [] else led lead' 0 (last % size)
      let from' := if head.isEmpty then lead else lead + 1
      let to' := if tail.isEmpty then lead' else lead' - 1
      let middle := if from' ≤ to' then [(from', to') :: List.replicate (count + 1) (0, 63)] else []
      head ++ middle ++ tail

/-- The code points of each length in UTF-8, with the number of continuation bytes and what is added
to the first digit. The surrogates have no encoding. -/
def encodedBlocks : List (Nat × Nat × Nat × Nat) := [
  (0, 0x7F, 0, 0), (0x80, 0x7FF, 1, 0xC0), (0x800, 0xD7FF, 2, 0xE0), (0xE000, 0xFFFF, 2, 0xE0),
  (0x10000, 0x10FFFF, 3, 0xF0)]

/-- The digits of a sequence as bytes. -/
def ByteSequence.mark (leading : Nat) : ByteSequence → ByteSequence
  | [] => []
  | (first, last) :: rest =>
    (first + leading, last + leading) :: rest.map fun (first, last) => (first + 0x80, last + 0x80)

/-- The byte sequences of some ranges of code points, in order. -/
def Ranges.byteSequences (ranges : Ranges) : List ByteSequence :=
  ranges.flatMap fun (first, last) =>
    encodedBlocks.flatMap fun (lowest, highest, count, leading) =>
      if max first lowest ≤ min last highest then
        (digitSequences count (max first lowest) (min last highest)).map (.mark leading)
      else []

end JvmSource.Unicode
