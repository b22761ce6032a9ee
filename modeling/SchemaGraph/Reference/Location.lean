import SchemaGraph.Reference.Pointer
import SchemaGraph.Url.Basic

/-!
# References into the current document

A document may say under which address it is known. `Reference.localize` turns a reference whose
document part names that address into a local pointer and leaves every other reference alone.
-/

namespace SchemaGraph.Reference

/-- The components of a file path. Empty ones and inner points do not count, a leading point does,
and an absolute path starts with an empty component. -/
def pathComponents (path : List Char) : List (List Char) :=
  let parts := path.splitOnP (· = '/')
  let significant := fun (part : List Char) => !part.isEmpty && part ≠ ['.']
  match path with
  | '/' :: _ => [] :: parts.filter significant
  | _ =>
      match parts with
      | ['.'] :: rest => ['.'] :: rest.filter significant
      | _ => parts.filter significant

/-- Whether a text starts with another or holds it further on. -/
def containsText (part : List Char) : List Char → Bool
  | [] => part.isEmpty
  | c :: rest => part.isPrefixOf (c :: rest) || containsText part rest

/-- Whether a text spells out a scheme and an authority. -/
def isAbsolute (text : String) : Bool :=
  containsText "://".toList text.toList

/-- Whether the document part of a reference names the address of the current document: as the same
text, as the same URL, as a URL with the address for its path, or as the same relative path. -/
def namesDocument (document address : String) : Bool :=
  if document = address then true
  else
    match Url.parse? document, Url.parse? address with
    | some left, some right => left = right
    | left, _ =>
        match left, address.toList with
        | some url, '/' :: _ => url.path = address.toList
        | _, _ =>
            !isAbsolute document && !isAbsolute address &&
              pathComponents document.toList = pathComponents address.toList

/-- The document part of a reference and its fragment. -/
def splitFragment? (reference : List Char) : Option (List Char × List Char) :=
  if reference.contains '#' then
    some (reference.takeWhile (· ≠ '#'), (reference.dropWhile (· ≠ '#')).drop 1)
  else none

/-- A reference into the current document as a local pointer, any other reference unchanged. -/
def localize (address : Option String) (reference : String) : String :=
  match address, splitFragment? reference.toList with
  | some address, some (document, fragment) =>
      if !document.isEmpty && namesDocument (String.ofList document) address then
        String.ofList ('#' :: fragment)
      else reference
  | _, _ => reference

end SchemaGraph.Reference
