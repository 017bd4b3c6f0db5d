namespace ModuleBundler.Output

/-- The lines of the loader, up to where it loads the entry. -/
def loaderLines : List String := [
  "(function (modules) \x7b",
  "  var cache = \x7b\x7d;",
  "",
  "  function load(id) \x7b",
  "    if (Object.prototype.hasOwnProperty.call(cache, id)) \x7b",
  "      return cache[id].exports;",
  "    \x7d",
  "    var module = (cache[id] = \x7b exports: \x7b\x7d \x7d);",
  "    var definition = modules[id];",
  "    var mapping = definition[1];",
  "    function require(specifier) \x7b",
  "      if (!Object.prototype.hasOwnProperty.call(mapping, specifier)) \x7b",
  "        throw new Error(\"Cannot find module '\" + specifier + \"'\");",
  "      \x7d",
  "      return load(mapping[specifier]);",
  "    \x7d",
  "    definition[0].call(module.exports, require, module, module.exports);",
  "    return module.exports;",
  "  \x7d",
  ""]

/-- The text of the loader, up to where it loads the entry: a function that takes the table of
modules and loads them on demand. A module is cached before its function runs, so that modules on a
cycle see each other's unfinished exports. -/
def loader : String := "\n".intercalate loaderLines

/-- What opens the function around the text of a module. -/
def factoryOpening : String := "function (require, module, exports) \x7b"

end ModuleBundler.Output
