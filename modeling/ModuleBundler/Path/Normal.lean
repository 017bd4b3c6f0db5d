import ModuleBundler.Path.Basic

namespace ModuleBundler.Path

def up : List Char := ['.', '.']

/-- Takes one more step from where `trail` leads; the trail holds its last step first. At the
root, the way up leads nowhere. -/
def walk (absolute : Bool) (trail : List (List Char)) (step : List Char) : List (List Char) :=
  if step = up then
    match trail with
    | [] => if absolute then [] else [up]
    | last :: before => if last = up then up :: trail else before
  else step :: trail

/-- The shortest steps that lead to the same place. -/
def fold (absolute : Bool) (steps : List (List Char)) : List (List Char) :=
  (steps.foldl (walk absolute) []).reverse

def normalSteps (p : Path) : List (List Char) := fold p.isAbsolute p.steps

/-- The path made of the given steps; no steps from nowhere are a single dot. -/
def ofSteps (absolute : Bool) (steps : List (List Char)) : Path :=
  if absolute then ofChars ('/' :: Text.join '/' steps)
  else if steps = [] then ofChars ['.']
  else ofChars (Text.join '/' steps)

/-- The lexical normal form: idle pieces vanish and each `..` takes back the name before it. No file
is looked at. -/
def normalize (p : Path) : Path := ofSteps p.isAbsolute p.normalSteps

def absolutize (p base : Path) : Path :=
  if p.isAbsolute then p.normalize else (base.join p).normalize

/-- What is left of both lists after their longest common beginning. -/
def dropCommon [DecidableEq α] : List α → List α → List α × List α
  | x :: xs, y :: ys => if x = y then dropCommon xs ys else (x :: xs, y :: ys)
  | xs, ys => (xs, ys)

/-- The way from `base` to `p`: up to the last directory in common, then down. Equal places
are the empty path apart. A relative path is read from the root. -/
def relativeTo (p base : Path) : Path :=
  let (down, back) := dropCommon (p.absolutize root).steps (base.absolutize root).steps
  ofChars (Text.join '/' (List.replicate back.length up ++ down))

/-- The name of a module in messages and comments: relative to `base`, so that it does not
depend on where a project lives. A relative path stays as it is. -/
def stable (p base : Path) : String :=
  if p.isAbsolute then (p.relativeTo base).text else p.text

end ModuleBundler.Path
