import ModuleBundler.Path.Basic

namespace ModuleBundler

/-- Finds the specifiers in a text read from a path, in source order, duplicates kept, or says
why it cannot. -/
abbrev Extractor := String → Path → Except String (List String)

end ModuleBundler
