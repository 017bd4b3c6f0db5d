import ModuleBundler.Bundler

namespace ModuleBundler

variable {files : Files} {extract : Extractor} {r : Resolver} {p q : Path}
  {source specifier entry : String} {specifiers : List String} {e : BuildError}

theorem exists_eq_ok_some {ε α : Type} {x : Except ε (Option α)}
    (h : x.toOption.join.isSome = true) : ∃ a, x = .ok (some a) := by
  match x, h with
  | .ok (some a), _ => exact ⟨a, rfl⟩

theorem exists_eq_ok_some_of {ε α : Type} {x : Except ε (Option α)} {p : α → Bool}
    (h : x.toOption.join.any p = true) : ∃ a, x = .ok (some a) ∧ p a = true := by
  match x, h with
  | .ok (some a), h => exact ⟨a, rfl, h⟩

theorem exists_eq_error {ε α : Type} {x : Except ε α} (h : x.toOption.isNone = true) :
    ∃ e, x = .error e := by
  match x, h with
  | .error e, _ => exact ⟨e, rfl⟩

theorem Files.load_eq_ok : files.load p = .ok source ↔ files.read p = .ok source := by
  unfold Files.load
  cases files.read p <;> simp

theorem Files.load_eq_error :
    files.load p = .error e ↔ ∃ cause, files.read p = .error cause ∧ e = .unreadable p cause := by
  unfold Files.load
  cases files.read p <;> simp [eq_comm]

theorem Extractor.ofModule_eq_ok :
    extract.ofModule source p = .ok specifiers ↔ extract source p = .ok specifiers := by
  unfold Extractor.ofModule
  cases extract source p <;> simp

theorem Extractor.ofModule_eq_error : extract.ofModule source p = .error e ↔
    ∃ cause, extract source p = .error cause ∧ e = .unparsable p cause := by
  unfold Extractor.ofModule
  cases extract source p <;> simp [eq_comm]

namespace Resolver

theorem resolveEntry_eq_ok : r.resolveEntry files.isFile entry = .ok q ↔
    r.resolveIn files.isFile r.cwd entry = some q := by
  unfold resolveEntry
  cases r.resolveIn files.isFile r.cwd entry <;> simp

theorem resolve_eq_ok : r.resolve files.isFile specifier p = .ok q ↔
    r.resolveIn files.isFile (r.directoryOf p) specifier = some q := by
  unfold resolve
  cases r.resolveIn files.isFile (r.directoryOf p) specifier <;> simp

theorem resolveEntry_eq_error : r.resolveEntry files.isFile entry = .error e ↔
    r.resolveIn files.isFile r.cwd entry = none ∧ e = .unresolvedEntry entry r.cwd := by
  unfold resolveEntry
  cases r.resolveIn files.isFile r.cwd entry <;> simp [eq_comm]

theorem resolve_eq_error : r.resolve files.isFile specifier p = .error e ↔
    r.resolveIn files.isFile (r.directoryOf p) specifier = none ∧
      e = .unresolved specifier p := by
  unfold resolve
  cases r.resolveIn files.isFile (r.directoryOf p) specifier <;> simp [eq_comm]

end Resolver

end ModuleBundler
