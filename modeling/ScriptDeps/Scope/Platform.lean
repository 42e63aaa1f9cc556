import ScriptDeps.Text.Basic

namespace ScriptDeps.Scope

/-! # Names of the platform

The names that every script finds defined.
-/

/-- The names that the runtime provides. -/
def platformNames : List String :=
  [
    "Infinity", "NaN", "undefined", "null", "globalThis",
    "eval", "isFinite", "isNaN", "parseFloat", "parseInt", "decodeURI", "decodeURIComponent",
    "encodeURI", "encodeURIComponent", "escape", "unescape",
    "Object", "Function", "Boolean", "Symbol",
    "Error", "AggregateError", "EvalError", "InternalError", "RangeError", "ReferenceError",
    "SyntaxError", "TypeError", "URIError",
    "Number", "BigInt", "Math", "Date",
    "String", "RegExp",
    "Array", "Int8Array", "Uint8Array", "Uint8ClampedArray", "Int16Array", "Uint16Array",
    "Int32Array", "Uint32Array", "Float32Array", "Float64Array", "BigInt64Array",
    "BigUint64Array",
    "Map", "Set", "WeakMap", "WeakSet",
    "ArrayBuffer", "SharedArrayBuffer", "Atomics", "DataView", "JSON",
    "Promise", "Generator", "GeneratorFunction", "AsyncFunction",
    "Reflect", "Proxy",
    "arguments",
    "Buffer", "__dirname", "__filename", "clearImmediate", "clearInterval", "clearTimeout",
    "console", "exports", "global", "module", "process", "require", "setImmediate", "setInterval",
    "setTimeout", "URL", "URLSearchParams"]

/-- The runtime provides the name. -/
def isProvided (name : Text) : Bool := platformNames.any fun n => Text.lit n == name

end ScriptDeps.Scope
