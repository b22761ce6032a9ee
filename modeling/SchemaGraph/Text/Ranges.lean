import SchemaGraph.Text.Digits
import Std.Data.HashMap

/-!
# Tables of code points

A class of characters is a list of ranges of code points. Long classes are written as a text of
hexadecimal numbers, which `Text.ranges` reads. `Text.mappings` reads a table that maps code points
to sequences of them.
-/

namespace SchemaGraph.Text

/-- Whether a code point lies in one of the ranges, both ends included. -/
def inRanges (ranges : List (Nat × Nat)) (code : Nat) : Bool :=
  ranges.any fun range => range.1 ≤ code && code ≤ range.2

/-- The words of a text between blanks and line breaks. -/
def tableWords (text : String) : List (List Char) :=
  (text.toList.splitOnP fun c => c = ' ' || c = '\n').filter (!·.isEmpty)

/-- The code point that hexadecimal digits write. -/
def codePoint (digits : List Char) : Nat :=
  (number? 16 digits).getD 0

/-- The range that a word writes: one code point, or the first and the last around a hyphen. -/
def range (word : List Char) : Nat × Nat :=
  match word.splitOnP (· = '-') with
  | [first, last] => (codePoint first, codePoint last)
  | _ => (codePoint word, codePoint word)

/-- The ranges that the words of a text write. -/
def ranges (text : String) : List (Nat × Nat) :=
  (tableWords text).map range

/-- The entries of a run: every `step`-th code point from `first` to `last` maps to the one as far
from `target` as it is from `first`. -/
def runEntries (first last step target : Nat) : List (Nat × List Nat) :=
  (List.range ((last - first) / step + 1)).map fun index =>
    (first + index * step, [target + index * step])

/-- The entries of a list: the code points from `first` on map to the given sequences in order. -/
def listEntries (first : Nat) (targets : List (List Nat)) : List (Nat × List Nat) :=
  (targets.zipIdx first).map fun (target, code) => (code, target)

/-- The entries that a word writes. The word `A-Z/S=B` is the run from `A` to `Z` by steps of `S`
that starts at `B`, where steps of one need not be written; the word `A=B,C+D` is the list of `B`
alone and of `C` with `D` for the code points from `A` on. -/
def wordEntries (word : List Char) : List (Nat × List Nat) :=
  match word.splitOnP (· = '=') with
  | [source, target] =>
      match source.splitOnP (· = '-') with
      | [first, rest] =>
          match rest.splitOnP (· = '/') with
          | [last, step] =>
              runEntries (codePoint first) (codePoint last) (codePoint step) (codePoint target)
          | _ => runEntries (codePoint first) (codePoint rest) 1 (codePoint target)
      | _ =>
          listEntries (codePoint source)
            ((target.splitOnP (· = ',')).map fun codes => (codes.splitOnP (· = '+')).map codePoint)
  | _ => []

/-- The table of mappings that the words of a text write. -/
def mappings (text : String) : Std.HashMap Nat (List Nat) :=
  Std.HashMap.ofList ((tableWords text).flatMap wordEntries)

end SchemaGraph.Text
