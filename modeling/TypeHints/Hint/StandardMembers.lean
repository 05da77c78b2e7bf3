import TypeHints.Classes

/-!
# Members of the standard classes

The own members of the standard classes, by the labels of the classes: `standardStatics` lists those
of the classes themselves and `standardShared` those of the objects that their instances share.
Members that cannot be read from a class are left out.
-/

namespace TypeHints.Builtin

/-- Standard functions by name, each with the number of parameters that it names. -/
def functions (fs : List (String × Nat)) : List (String × Value) :=
  fs.map fun f => (f.1, .native f.1 f.2)

/-- The own members of a standard class beside its name, its length and its shared object. -/
def standardStatics : Label → List (String × Value)
  | 1 =>
    functions [("assign", 2), ("getOwnPropertyDescriptor", 2), ("getOwnPropertyDescriptors", 1),
      ("getOwnPropertyNames", 1), ("getOwnPropertySymbols", 1), ("hasOwn", 2), ("is", 2),
      ("preventExtensions", 1), ("seal", 1), ("create", 2), ("defineProperties", 2),
      ("defineProperty", 3), ("freeze", 1), ("getPrototypeOf", 1), ("setPrototypeOf", 2),
      ("isExtensible", 1), ("isFrozen", 1), ("isSealed", 1), ("keys", 1), ("entries", 1),
      ("fromEntries", 1), ("values", 1), ("groupBy", 2)]
  | 3 =>
    functions [("isArray", 1), ("from", 1), ("of", 0), ("fromAsync", 1)]
  | 5 =>
    functions [("groupBy", 2)]
  | 6 =>
    functions [("all", 1), ("allSettled", 1), ("any", 1), ("race", 1), ("resolve", 1),
      ("reject", 1), ("withResolvers", 0)]
  | 9 =>
    functions [("fromCharCode", 1), ("fromCodePoint", 1), ("raw", 1)]
  | 10 =>
    functions [("isFinite", 1), ("isInteger", 1), ("isNaN", 1), ("isSafeInteger", 1),
      ("parseFloat", 1), ("parseInt", 2)] ++
    [("MAX_VALUE", .number (.finite false 17976931348623157 292)),
      ("MIN_VALUE", .number (.finite false 5 (-324))), ("NaN", .number .nan),
      ("NEGATIVE_INFINITY", .number (.infinite true)),
      ("POSITIVE_INFINITY", .number (.infinite false)),
      ("MAX_SAFE_INTEGER", .number (.finite false 9007199254740991 0)),
      ("MIN_SAFE_INTEGER", .number (.finite true 9007199254740991 0)),
      ("EPSILON", .number (.finite false 2220446049250313 (-31)))]
  | 13 =>
    functions [("now", 0), ("parse", 1), ("UTC", 7)]
  | 14 =>
    [("$1", .string ""), ("$2", .string ""), ("$3", .string ""), ("$4", .string ""),
      ("$5", .string ""), ("$6", .string ""), ("$7", .string ""), ("$8", .string ""),
      ("$9", .string "")]
  | 15 =>
    functions [("captureStackTrace", 2)] ++
    [("stackTraceLimit", .number (.ofInt 10))]
  | 18 =>
    functions [("isView", 1)]
  | 20 =>
    [("BYTES_PER_ELEMENT", .number (.ofInt 1))]
  | 21 =>
    functions [("parse", 1), ("canParse", 1), ("createObjectURL", 1), ("revokeObjectURL", 1)]
  | _ => []

/-- The own members of the object that the instances of a standard class share, beside the class. -/
def standardShared : Label → List (String × Value)
  | 1 =>
    functions [("__defineGetter__", 2), ("__defineSetter__", 2), ("hasOwnProperty", 1),
      ("__lookupGetter__", 1), ("__lookupSetter__", 1), ("isPrototypeOf", 1),
      ("propertyIsEnumerable", 1), ("toString", 0), ("valueOf", 0), ("toLocaleString", 0)] ++
    [("__proto__", .null)]
  | 3 =>
    functions [("at", 1), ("concat", 1), ("copyWithin", 2), ("fill", 1), ("find", 1),
      ("findIndex", 1), ("findLast", 1), ("findLastIndex", 1), ("lastIndexOf", 1), ("pop", 0),
      ("push", 1), ("reverse", 0), ("shift", 0), ("unshift", 1), ("slice", 2), ("sort", 1),
      ("splice", 2), ("includes", 1), ("indexOf", 1), ("join", 1), ("keys", 0), ("entries", 0),
      ("values", 0), ("forEach", 1), ("filter", 1), ("flat", 0), ("flatMap", 1), ("map", 1),
      ("every", 1), ("some", 1), ("reduce", 1), ("reduceRight", 1), ("toReversed", 0),
      ("toSorted", 1), ("toSpliced", 2), ("with", 2), ("toLocaleString", 0), ("toString", 0)] ++
    [("length", .number (.ofInt 0))]
  | 4 =>
    functions [("has", 1), ("add", 1), ("delete", 1), ("clear", 0), ("entries", 0),
      ("forEach", 1), ("values", 0), ("union", 1), ("intersection", 1), ("difference", 1),
      ("symmetricDifference", 1), ("isSubsetOf", 1), ("isSupersetOf", 1),
      ("isDisjointFrom", 1)] ++
    [("keys", .native "values" 0)]
  | 5 =>
    functions [("get", 1), ("set", 2), ("has", 1), ("delete", 1), ("clear", 0), ("entries", 0),
      ("forEach", 1), ("keys", 0), ("values", 0)]
  | 6 =>
    functions [("then", 2), ("catch", 1), ("finally", 1)]
  | 9 =>
    functions [("anchor", 1), ("at", 1), ("big", 0), ("blink", 0), ("bold", 0), ("charAt", 1),
      ("charCodeAt", 1), ("codePointAt", 1), ("concat", 1), ("endsWith", 1), ("fontcolor", 1),
      ("fontsize", 1), ("fixed", 0), ("includes", 1), ("indexOf", 1), ("isWellFormed", 0),
      ("italics", 0), ("lastIndexOf", 1), ("link", 1), ("localeCompare", 1), ("match", 1),
      ("matchAll", 1), ("normalize", 0), ("padEnd", 1), ("padStart", 1), ("repeat", 1),
      ("replace", 2), ("replaceAll", 2), ("search", 1), ("slice", 2), ("small", 0), ("split", 2),
      ("strike", 0), ("sub", 0), ("substr", 2), ("substring", 2), ("sup", 0), ("startsWith", 1),
      ("toString", 0), ("toWellFormed", 0), ("trim", 0), ("trimStart", 0), ("trimEnd", 0),
      ("toLocaleLowerCase", 0), ("toLocaleUpperCase", 0), ("toLowerCase", 0), ("toUpperCase", 0),
      ("valueOf", 0)] ++
    [("length", .number (.ofInt 0)), ("trimLeft", .native "trimStart" 0),
      ("trimRight", .native "trimEnd" 0)]
  | 10 =>
    functions [("toExponential", 1), ("toFixed", 1), ("toPrecision", 1), ("toString", 1),
      ("valueOf", 0), ("toLocaleString", 0)]
  | 11 =>
    functions [("toString", 0), ("valueOf", 0)]
  | 12 =>
    functions [("apply", 2), ("bind", 1), ("call", 1), ("toString", 0)] ++
    [("length", .number (.ofInt 0)), ("name", .string "")]
  | 13 =>
    functions [("toString", 0), ("toDateString", 0), ("toTimeString", 0), ("toISOString", 0),
      ("toUTCString", 0), ("getDate", 0), ("setDate", 1), ("getDay", 0), ("getFullYear", 0),
      ("setFullYear", 3), ("getHours", 0), ("setHours", 4), ("getMilliseconds", 0),
      ("setMilliseconds", 1), ("getMinutes", 0), ("setMinutes", 3), ("getMonth", 0),
      ("setMonth", 2), ("getSeconds", 0), ("setSeconds", 2), ("getTime", 0), ("setTime", 1),
      ("getTimezoneOffset", 0), ("getUTCDate", 0), ("setUTCDate", 1), ("getUTCDay", 0),
      ("getUTCFullYear", 0), ("setUTCFullYear", 3), ("getUTCHours", 0), ("setUTCHours", 4),
      ("getUTCMilliseconds", 0), ("setUTCMilliseconds", 1), ("getUTCMinutes", 0),
      ("setUTCMinutes", 3), ("getUTCMonth", 0), ("setUTCMonth", 2), ("getUTCSeconds", 0),
      ("setUTCSeconds", 2), ("valueOf", 0), ("getYear", 0), ("setYear", 1), ("toJSON", 1),
      ("toLocaleString", 0), ("toLocaleDateString", 0), ("toLocaleTimeString", 0)] ++
    [("toGMTString", .native "toUTCString" 0)]
  | 14 =>
    functions [("exec", 1), ("compile", 2), ("toString", 0), ("test", 1)] ++
    [("flags", .string ""), ("source", .string "(?:)")]
  | 15 =>
    functions [("toString", 0)] ++
    [("name", .string "Error"), ("message", .string "")]
  | 16 =>
    [("name", .string "TypeError"), ("message", .string "")]
  | 17 =>
    [("name", .string "RangeError"), ("message", .string "")]
  | 18 =>
    functions [("slice", 2), ("resize", 1), ("transfer", 0), ("transferToFixedLength", 0)]
  | 19 =>
    functions [("getInt8", 1), ("setInt8", 2), ("getUint8", 1), ("setUint8", 2), ("getInt16", 1),
      ("setInt16", 2), ("getUint16", 1), ("setUint16", 2), ("getInt32", 1), ("setInt32", 2),
      ("getUint32", 1), ("setUint32", 2), ("getFloat32", 1), ("setFloat32", 2), ("getFloat64", 1),
      ("setFloat64", 2), ("getBigInt64", 1), ("setBigInt64", 2), ("getBigUint64", 1),
      ("setBigUint64", 2)]
  | 20 =>
    [("BYTES_PER_ELEMENT", .number (.ofInt 1))]
  | 21 =>
    functions [("toString", 0), ("toJSON", 0)]
  | _ => []

end TypeHints.Builtin
