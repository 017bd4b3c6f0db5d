import ModuleBundler.Path.Normal
import ModuleBundler.Text.Blank

namespace ModuleBundler.Path

open Text (dropWhileEnd)

/-- The first piece, and the other pieces up to the last that is not idle. -/
def spine (p : Path) : List Char × List (List Char) :=
  match p.pieces with
  | [] => ([], [])
  | first :: others => (first, dropWhileEnd isIdle others)

/-- The path without its last component, cut where the component before ends; the root and the
empty path have none. -/
def parent? (p : Path) : Option Path :=
  match p.spine with
  | (first, []) => if first = [] then none else some (ofChars [])
  | (first, others@(_ :: _)) =>
    let kept := dropWhileEnd isIdle others.dropLast
    if first = [] && kept = [] then some root
    else some (ofChars (Text.join '/' (first :: kept)))

/-- The path, its parent, the parent of that, and so on. -/
def ancestors (p : Path) : List Path :=
  go p.chars.length p
where
  /-- The path and at most `n` ancestors of it. -/
  go : Nat → Path → List Path
    | 0, p => [p]
    | n + 1, p =>
      match p.parent? with
      | some q => p :: go n q
      | none => [p]

/-- The last component, unless it is a way up, a lone dot or the root. -/
def fileName? (p : Path) : Option (List Char) :=
  match p.spine with
  | (first, []) => if isIdle first || first = up then none else some first
  | (_, others@(_ :: _)) => others.getLast?.filter (· ≠ up)

/-- A name cut at its last dot. A name without a dot, or with none but a leading one, has no
extension. -/
def cutAtDot (name : List Char) : List Char × Option (List Char) :=
  let after := name.reverse.takeWhile (· ≠ '.')
  match name.reverse.dropWhile (· ≠ '.') with
  | [] => (name, none)
  | _ :: before => if before = [] then (name, none) else (before.reverse, some after.reverse)

def stem? (p : Path) : Option (List Char) := p.fileName?.map fun name => (cutAtDot name).1

def extension? (p : Path) : Option (List Char) := p.fileName?.bind fun name => (cutAtDot name).2

/-- What stands for a module in an output name: its stem, but for `index` and `mod` the stem of
the directory, if there is one. -/
def representative (p : Path) : List Char :=
  let own := p.stem?.getD p.chars
  if own = "index".toList || own = "mod".toList then (p.parent?.bind stem?).getD own else own

/-- Letters, digits, `-` and `_` of ASCII. -/
def isSafe (c : Char) : Bool := c.isAlphanum || c = '-' || c = '_'

/-- The text with `_` for every character that is not safe in a file name. -/
def sanitizeChars (cs : List Char) : List Char := cs.map fun c => if isSafe c then c else '_'

/-- The text with `_` for every character that is not safe in a file name. -/
def sanitize (s : String) : String := String.ofList (sanitizeChars s.toList)

/-- The representative name, safe as part of a file name. -/
def safeName (p : Path) : String := String.ofList (sanitizeChars p.representative)

/-- The pieces after the given steps, idle pieces between them passed over. -/
def afterSteps : List (List Char) → List (List Char) → Option (List (List Char))
  | [], pieces => some pieces
  | _ :: _, [] => none
  | step :: steps, piece :: pieces =>
    if isIdle piece then afterSteps (step :: steps) pieces
    else if piece = step then afterSteps steps pieces
    else none

/-- What is left of `p` under the directory `base`, compared step by step; `p` itself when it
does not lie there. -/
def under (p base : Path) : Path :=
  if p.isAbsolute = base.isAbsolute then
    match afterSteps base.steps p.pieces with
    | some rest => ofChars (Text.join '/' (dropWhileEnd isIdle (rest.dropWhile isIdle)))
    | none => p
  else p

end ModuleBundler.Path
