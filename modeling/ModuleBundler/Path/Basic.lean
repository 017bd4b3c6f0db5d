import ModuleBundler.Text.Split

namespace ModuleBundler

/-- A path, kept as written: `/` separates pieces, a leading `/` makes the path absolute, and
nothing is folded until asked for. It is Unicode text. Paths that are not are out of scope, so the
lossy conversion by which a path becomes the name of a module changes nothing and is left out. -/
structure Path where
  text : String
deriving DecidableEq, Hashable, Repr, Inhabited

namespace Path

def chars (p : Path) : List Char := p.text.toList

def ofChars (cs : List Char) : Path := ⟨String.ofList cs⟩

@[simp] theorem chars_ofChars (cs : List Char) : (ofChars cs).chars = cs := by
  simp [chars, ofChars]

@[simp] theorem ofChars_chars (p : Path) : ofChars p.chars = p := by
  simp [chars, ofChars]

theorem chars_inj {p q : Path} : p.chars = q.chars ↔ p = q :=
  ⟨fun h => by rw [← ofChars_chars p, h, ofChars_chars], fun h => h ▸ rfl⟩

def root : Path := ⟨"/"⟩

def isAbsolute (p : Path) : Bool := p.chars.head? == some '/'

def pieces (p : Path) : List (List Char) := Text.split '/' p.chars

def endsInSlash (p : Path) : Bool := p.chars.getLast? == some '/'

/-- `tail` as seen from `dir`: an absolute tail stands for itself. -/
def join (dir tail : Path) : Path :=
  if tail.isAbsolute then tail
  else if dir.chars = [] || dir.endsInSlash then ofChars (dir.chars ++ tail.chars)
  else ofChars (dir.chars ++ '/' :: tail.chars)

def append (p : Path) (suffix : List Char) : Path := ofChars (p.chars ++ suffix)

/-- A piece that names nothing: empty, or a single dot. -/
def isIdle (w : List Char) : Bool := w = [] || w = ['.']

/-- The pieces that lead somewhere: names, and `..` for the way up. -/
def steps (p : Path) : List (List Char) := p.pieces.filter (!isIdle ·)

end Path

end ModuleBundler
