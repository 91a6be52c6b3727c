import Dialogue.Shell.Activity
import Dialogue.Shell.Fields

/-!
Matching fields against the names of files. A field with a star, a question mark or brackets in it
that are not quoted stands for all the names that it matches, in the order of their octets; if there
is none it stands for itself.
-/

namespace Dialogue.Shell

open Activity

/-- Where brackets in a name close, that begin a text: whether they do before a slash. -/
def closesBracket : Nat → Chars → Bool
  | 0, _ => false
  | bound + 1, text =>
    let text :=
      match text with
      | '\\' :: rest => rest
      | text => text
    match text with
    | [] => false
    | '/' :: _ => false
    | _ :: ']' :: _ => true
    | _ :: rest => closesBracket bound rest

/-- A pattern of names taken apart: the part before the first component that stands for several
names, that component, and what follows the slash behind it, if there is one. -/
structure NamePattern where
  before : Chars
  component : Chars
  after : Option Chars

/-- Takes a pattern of names apart. The parts read so far are the latest characters first. There is
no component that stands for several names if the answer is none. -/
def NamePattern.find? : Nat → Chars → Chars → Bool → Chars → Option NamePattern
  | 0, _, _, _, _ => none
  | bound + 1, before, component, isMeta, text =>
    let onward (c : Chars) (isMeta : Bool) (rest : Chars) : Option NamePattern :=
      NamePattern.find? bound before (c ++ component) isMeta rest
    let slash (c rest : Chars) : Option NamePattern :=
      if isMeta then
        some { before := before.reverse, component := component.reverse, after := some rest }
      else NamePattern.find? bound (c ++ component ++ before) [] false rest
    match text with
    | [] =>
      if isMeta then
        some { before := before.reverse, component := component.reverse, after := none }
      else none
    | '\\' :: '/' :: rest => slash ['/', '\\'] rest
    | '\\' :: c :: rest => onward [c, '\\'] isMeta rest
    | '/' :: rest => slash ['/'] rest
    | c :: rest =>
      if c = '*' || c = '?' then onward [c] true rest
      else if c = '[' then
        let inside :=
          match rest with
          | '!' :: rest => rest
          | rest => rest
        onward [c] (isMeta || closesBracket rest.length inside) rest
      else onward [c] isMeta rest

/-- A pattern without its backslashes. -/
def unescaped : Pattern → Chars
  | '\\' :: c :: rest => c :: unescaped rest
  | c :: rest => c :: unescaped rest
  | [] => []

/-- The paths in a directory that match a pattern of names. The first argument bounds the depth. -/
def matchingPaths : Nat → Chars → Pattern → Activity (List Chars)
  | 0, _, _ => pure []
  | depth + 1, directory, pattern => do
    match NamePattern.find? (pattern.length + 1) [] [] false pattern with
    | none =>
      if directory = [] then return []
      else
        let path := directory ++ unescaped pattern
        match ← ask (Program.inspect (Text.toOctets path) false) with
        | .ok _ => return [path]
        | .error _ => return []
    | some found =>
      let directory := directory ++ unescaped found.before
      let listed := if directory = [] then ['.'] else directory
      match ← ask (Program.list (Text.toOctets listed)) with
      | .error _ => return []
      | .ok names =>
        let names := ['.'] :: ['.', '.'] :: names.map Text.ofOctets
        let dotted := (unescaped (found.component.take 2)).head? == some '.'
        let names := names.filter fun name =>
          (dotted || name.head? != some '.') && Pattern.matches found.component name
        match found.after with
        | none => return names.map (directory ++ ·)
        | some rest =>
          let paths ← names.mapM fun name =>
            matchingPaths depth (directory ++ name ++ ['/']) rest
          return paths.flatten

/-- Whether a text comes before another one, octet by octet. -/
def comesBefore : Chars → Chars → Bool
  | [], _ => true
  | _ :: _, [] => false
  | a :: rest, b :: others => a < b || (a == b && comesBefore rest others)

/-- The words that fields come to. -/
def wordsOf (fields : List (List Glyph)) : Activity (List Chars) := do
  let plain := (← state).has .noglob
  let words ← fields.mapM fun glyphs => do
    let text := Glyph.text glyphs
    if plain || !text.any "*?[".toList.contains then return [text]
    else
      let pattern := Glyph.pattern true glyphs
      match ← matchingPaths (pattern.length + 1) [] pattern with
      | [] => return [text]
      | paths => return paths.mergeSort comesBefore
  return words.flatten

end Dialogue.Shell
