import Concord.Text.Cut

/-!
# Concord.Spelling.Vocabulary

The words of type spellings that have a fixed meaning: the spellings of each canonical base type,
and the heads of generic types that stand for a layer around a type and not for a type of their own.
-/

namespace Concord.Spelling.Vocabulary

/-- The canonical base types, each with its spellings in all languages.  Every canonical base
spells itself. -/
def families : List (String × List String) :=
  [("integer",
     ["int", "int8", "int16", "int32", "int64", "uint", "uint8", "uint16", "uint32", "uint64",
      "uintptr", "rune", "i8", "i16", "i32", "i64", "i128", "u16", "u32", "u64", "u128", "isize",
      "usize", "Integer", "Long", "long", "Short", "short", "ulong", "ushort", "sbyte",
      "BigInteger", "bigint", "Int16", "Int32", "Int64", "UInt32", "UInt64", "integer"]),
  ("number",
     ["number"]),
  ("float",
     ["float", "float32", "float64", "f32", "f64", "Float", "Double", "double", "decimal",
      "Decimal", "BigDecimal", "Single"]),
  ("string",
     ["string", "String", "str", "StringBuilder", "char", "Character", "Char"]),
  ("boolean",
     ["bool", "boolean", "Boolean"]),
  ("void",
     ["void", "()", "None", "Unit", "never", "Void"]),
  ("null",
     ["null", "nil", "undefined", "NoneType"]),
  ("byte",
     ["byte", "Byte", "u8"]),
  ("bytes",
     ["bytes", "[]byte", "bytearray", "byte[]", "Vec<u8>", "&[u8]", "[u8]", "Uint8Array",
      "Buffer", "memoryview"]),
  ("any",
     ["any", "Any", "interface\x7b\x7d", "Object", "object", "dynamic", "unknown"]),
  ("error",
     ["error", "Error", "Exception", "Throwable"]),
  ("result",
     ["result", "Result"]),
  ("context",
     ["context", "context.Context", "Context", "CancellationToken"]),
  ("timestamp",
     ["timestamp", "time.Time", "datetime", "Date", "DateTime", "DateTimeOffset", "Instant",
      "LocalDateTime", "SystemTime"]),
  ("duration",
     ["duration", "time.Duration", "timedelta", "Duration", "TimeSpan"]),
  ("uuid",
     ["uuid", "UUID", "Uuid", "Guid"]),
  ("map",
     ["map"]),
  ("function",
     ["function"])]

/-- The canonical base type with exactly this spelling. -/
def lookup? (s : List Char) : Option String :=
  (families.find? (·.2.contains (String.ofList s))).map (·.1)

/-- The canonical base type with this spelling, blanks inside it passed over if need be. -/
def canonical? (s : List Char) : Option String :=
  lookup? s <|> lookup? (s.filter (· ≠ ' '))

/-- Whether `base` is a canonical base type. -/
def isCanonical (base : String) : Bool := families.any (·.1 == base)

/-! ## Heads of layers -/

/-- Heads whose first argument is the element type of a sequence or a set. -/
def sequences : List String :=
  ["list", "List", "Vec", "Array", "ArrayList", "LinkedList", "Set", "set", "frozenset",
   "HashSet", "BTreeSet", "Sequence", "MutableSequence", "Iterable", "Iterator", "Collection",
   "IEnumerable", "IList", "ICollection", "IReadOnlyList", "IReadOnlyCollection",
   "ReadonlyArray", "VecDeque", "AbstractSet", "Stream"]

/-- Heads of associative containers. -/
def maps : List String :=
  ["Map", "HashMap", "BTreeMap", "TreeMap", "LinkedHashMap", "Dictionary", "IDictionary",
   "IReadOnlyDictionary", "dict", "Dict", "Mapping", "MutableMapping", "Record", "DefaultDict",
   "defaultdict", "OrderedDict", "ConcurrentDictionary", "ConcurrentHashMap"]

/-- Heads that allow a value to be absent. -/
def optionals : List String :=
  ["Optional", "Option", "Nullable"]

/-- Heads of values that arrive later. -/
def deferred : List String :=
  ["Promise", "Task", "ValueTask", "Future", "Awaitable", "CompletableFuture", "CompletionStage"]

/-- Heads that own or share a value behind a pointer. -/
def pointers : List String :=
  ["Box", "Rc", "Arc", "RefCell", "Cell", "Mutex", "RwLock", "Weak", "Ref"]

/-- Heads of function types. -/
def functions : List String :=
  ["Callable", "Fn", "FnMut", "FnOnce", "Func", "Action", "Function", "BiFunction", "Supplier",
   "Consumer", "Predicate", "Runnable"]

/-- Spellings of the absent value. -/
def nullish : List String := ["None", "null", "undefined", "nil", "NoneType"]

/-- Words in front of a type that say how a value is held and not what it is. -/
def qualifiers : List String :=
  ["const ", "readonly ", "dyn ", "impl ", "mut ", "ref ", "out ", "in ", "final ", "params ",
   "keyof ", "typeof "]

/-- Words that are part of a type when a name stands behind them. -/
def typeWords : List String :=
  ["mut", "dyn", "impl", "const", "ref", "out", "in", "readonly", "unsigned", "signed", "long",
   "short", "struct"]

end Concord.Spelling.Vocabulary
