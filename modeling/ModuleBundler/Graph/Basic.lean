import ModuleBundler.Build.Error
import ModuleBundler.Graph.Asset
import ModuleBundler.Text.Quoted

namespace ModuleBundler

/-- Assets by number, and the number of the entry. -/
structure AssetGraph where
  assets : Array Asset
  entry : Nat
deriving Inhabited

/-- What is wrong with a graph. -/
inductive Violation where
  | entryMissing (entry : Nat)
  /-- An asset is stored under another number than its own. -/
  | misnumbered (path : Path) (position index : Nat)
  | duplicated (path : Path)
  | unmapped (specifier : String) (importer : Path)
  /-- A specifier leads to a number without an asset. -/
  | dangling (specifier : String) (importer : Path) (target : Nat)
deriving DecidableEq, Repr

namespace Violation

def message : Violation → String
  | entryMissing entry => "entry " ++ toString entry ++ " is not in the graph"
  | misnumbered path position index =>
    path.text ++ " is stored at " ++ toString position ++ " but has id " ++ toString index
  | duplicated path => path.text ++ " is registered more than once"
  | unmapped specifier importer =>
    Text.quoted specifier ++ " imported by " ++ importer.text ++ " is not mapped to any asset"
  | dangling specifier importer target =>
    Text.quoted specifier ++ " imported by " ++ importer.text ++ " points to missing asset " ++
      toString target

end Violation

namespace AssetGraph

def findByPath (g : AssetGraph) (p : Path) : Option Asset := g.assets.find? (·.path = p)

/-- The asset that a specifier of an asset leads to. -/
def dependency? (g : AssetGraph) (i : Nat) (specifier : String) : Option Nat :=
  g.assets[i]?.bind (·.dependencies.get? specifier)

/-- The first thing wrong with an asset stored at `position` in a graph of `size` assets, after
assets with the paths `seen`. -/
def assetViolation? (size position : Nat) (seen : List Path) (a : Asset) : Option Violation :=
  if a.index ≠ position then some (.misnumbered a.path position a.index)
  else if seen.contains a.path then some (.duplicated a.path)
  else match a.unmapped with
    | specifier :: _ => some (.unmapped specifier a.path)
    | [] =>
      (a.dependencies.entries.find? (size ≤ ·.2)).map fun e => .dangling e.1 a.path e.2

/-- The first thing wrong with the assets from `position` on. -/
def firstViolation? (size : Nat) : Nat → List Path → List Asset → Option Violation
  | _, _, [] => none
  | position, seen, a :: rest =>
    match assetViolation? size position seen a with
    | some v => some v
    | none => firstViolation? size (position + 1) (a.path :: seen) rest

def violation? (g : AssetGraph) : Option Violation :=
  if g.assets.size ≤ g.entry then some (.entryMissing g.entry)
  else firstViolation? g.assets.size 0 [] g.assets.toList

/-- Refuses a graph that is not closed: assets are numbered by position, no path occurs twice, and
every specifier leads to an asset of the graph. -/
def validate (g : AssetGraph) : Except BuildError Unit :=
  match g.violation? with
  | some v => .error (.invariantViolation v.message)
  | none => .ok ()

end AssetGraph

end ModuleBundler
