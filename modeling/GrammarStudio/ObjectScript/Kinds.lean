/-!
# Kinds that scripts do not define

* `kindParents` — each kind with the one it comes from;
* `kindLine` — a kind with all that it comes from;
* `shortName` — the name of a kind without that of its library;
* `hasMethod` — what can be asked of a value of a kind.
-/

namespace GrammarStudio.ObjectScript

/-- Each kind with the one it comes from. -/
def kindParents : List (String × String) :=
  [("type", "object"), ("int", "object"), ("bool", "int"), ("float", "object"), ("str", "object"), ("bytes", "object"),
    ("bytearray", "object"), ("list", "object"), ("tuple", "object"), ("dict", "object"), ("set", "object"),
    ("frozenset", "object"), ("range", "object"), ("slice", "object"), ("function", "object"), ("method", "object"),
    ("builtin_function_or_method", "object"), ("module", "object"), ("generator", "object"), ("property", "object"),
    ("staticmethod", "object"), ("classmethod", "object"), ("super", "object"), ("enumerate", "object"), ("zip", "object"),
    ("map", "object"), ("filter", "object"), ("reversed", "object"), ("memoryview", "object"), ("complex", "object"),
    ("NoneType", "object"), ("ellipsis", "object"), ("NotImplementedType", "object"),
    ("list_iterator", "object"), ("dict_keys", "object"), ("dict_values", "object"), ("dict_items", "object"),
    ("collections.OrderedDict", "dict"), ("collections.defaultdict", "dict"), ("collections.Counter", "dict"),
    ("collections.deque", "object"), ("types.SimpleNamespace", "object"), ("re.Match", "object"), ("re.Pattern", "object"),
    ("_io.TextIOWrapper", "object"), ("_io.BufferedWriter", "object"), ("_io.BufferedReader", "object"), ("_io.FileIO", "object"),
    ("_io.StringIO", "object"), ("_io.BytesIO", "object"), ("os.stat_result", "tuple"), ("subprocess.CompletedProcess", "object"),
    ("subprocess.Popen", "object"), ("os._Environ", "object"), ("functools.partial", "object"), ("time.struct_time", "tuple"),
    ("signal.Signals", "int"), ("signal.Handlers", "int"), ("traceback", "object"), ("sys.version_info", "tuple"), ("posix.uname_result", "tuple"), ("posix.times_result", "tuple"), ("code", "object"), ("frame", "object"), ("types.UnionType", "object"), ("pathlib.PosixPath", "object"), ("_hashlib.HASH", "object"),
    ("BaseException", "object"), ("Exception", "BaseException"), ("SystemExit", "BaseException"),
    ("KeyboardInterrupt", "BaseException"), ("GeneratorExit", "BaseException"), ("StopIteration", "Exception"),
    ("StopAsyncIteration", "Exception"), ("ArithmeticError", "Exception"), ("ZeroDivisionError", "ArithmeticError"),
    ("OverflowError", "ArithmeticError"), ("FloatingPointError", "ArithmeticError"), ("AssertionError", "Exception"),
    ("AttributeError", "Exception"), ("BufferError", "Exception"), ("EOFError", "Exception"), ("ImportError", "Exception"),
    ("ModuleNotFoundError", "ImportError"), ("LookupError", "Exception"), ("IndexError", "LookupError"),
    ("KeyError", "LookupError"), ("MemoryError", "Exception"), ("NameError", "Exception"), ("UnboundLocalError", "NameError"),
    ("OSError", "Exception"), ("BlockingIOError", "OSError"), ("ChildProcessError", "OSError"),
    ("ConnectionError", "OSError"), ("BrokenPipeError", "ConnectionError"), ("ConnectionAbortedError", "ConnectionError"),
    ("ConnectionRefusedError", "ConnectionError"), ("ConnectionResetError", "ConnectionError"), ("FileExistsError", "OSError"),
    ("FileNotFoundError", "OSError"), ("InterruptedError", "OSError"), ("IsADirectoryError", "OSError"),
    ("NotADirectoryError", "OSError"), ("PermissionError", "OSError"), ("ProcessLookupError", "OSError"),
    ("TimeoutError", "OSError"), ("ReferenceError", "Exception"), ("RuntimeError", "Exception"),
    ("NotImplementedError", "RuntimeError"), ("RecursionError", "RuntimeError"), ("SyntaxError", "Exception"),
    ("IndentationError", "SyntaxError"), ("TabError", "IndentationError"), ("SystemError", "Exception"),
    ("TypeError", "Exception"), ("ValueError", "Exception"), ("UnicodeError", "ValueError"),
    ("UnicodeDecodeError", "UnicodeError"), ("UnicodeEncodeError", "UnicodeError"), ("UnicodeTranslateError", "UnicodeError"),
    ("Warning", "Exception"), ("DeprecationWarning", "Warning"), ("PendingDeprecationWarning", "Warning"),
    ("RuntimeWarning", "Warning"), ("SyntaxWarning", "Warning"), ("UserWarning", "Warning"), ("FutureWarning", "Warning"),
    ("ImportWarning", "Warning"), ("UnicodeWarning", "Warning"), ("BytesWarning", "Warning"), ("ResourceWarning", "Warning"),
    ("EncodingWarning", "Warning"), ("BaseExceptionGroup", "BaseException"), ("ExceptionGroup", "Exception"),
    ("json.decoder.JSONDecodeError", "ValueError"), ("subprocess.SubprocessError", "Exception"),
    ("subprocess.CalledProcessError", "subprocess.SubprocessError"), ("subprocess.TimeoutExpired", "subprocess.SubprocessError"),
    ("re.error", "Exception"), ("io.UnsupportedOperation", "OSError"), ("binascii.Error", "ValueError"), ("struct.error", "Exception"),
    ("shutil.Error", "OSError"), ("shutil.SameFileError", "shutil.Error"), ("statistics.StatisticsError", "ValueError"),
    ("abc.ABC", "object"), ("enum.Enum", "object"), ("enum.IntEnum", "int")]

/-- A kind with all that it comes from, the nearest first. -/
def kindLineOn : (fuel : Nat) → String → List String
  | 0, k => [k]
  | fuel + 1, k =>
    match kindParents.lookup k with
    | some parent => k :: kindLineOn fuel parent
    | none => if k == "object" then [k] else [k, "object"]

def kindLine (k : String) : List String :=
  if k == "io.UnsupportedOperation" then ["io.UnsupportedOperation", "OSError", "ValueError", "Exception", "BaseException", "object"]
  else if k == "ExceptionGroup" then ["ExceptionGroup", "BaseExceptionGroup", "Exception", "BaseException", "object"]
  else kindLineOn 8 k

/-- Is the first kind the second, or does it come from it? -/
def isKindOf (k base : String) : Bool := (kindLine k).contains base

def isExceptionKind (k : String) : Bool := isKindOf k "BaseException"

/-- The name of a kind without that of its library. -/
def shortName (k : String) : String := String.ofList ((k.toList.reverse.takeWhile (· ≠ '.')).reverse)

/-- The library of a kind. -/
def libraryOf (k : String) : String :=
  let long := k.toList
  let short := (shortName k).toList
  if long.length = short.length then "builtins" else String.ofList (long.take (long.length - short.length - 1))

/-! ### Methods -/

/-- The methods of texts and of octets. -/
def writtenMethods : String :=
  "capitalize center count endswith expandtabs find index isalnum isalpha isascii isdigit islower isspace istitle isupper " ++
    "join ljust lower lstrip maketrans partition removeprefix removesuffix replace rfind rindex rjust rpartition rsplit " ++
    "rstrip split splitlines startswith strip swapcase title translate upper zfill"

/-- The methods of all streams. -/
def channelMethods : String :=
  "__enter__ __exit__ __iter__ __next__ close closed detach fileno flush isatty mode name newlines read readable readline readlines " ++
    "reconfigure seek seekable tell truncate writable write writelines"

/-- The methods of a kind, in one text. -/
def methodText : String → String
  | "object" =>
    "__class__ __delattr__ __dir__ __doc__ __eq__ __format__ __ge__ __getattribute__ __gt__ __hash__ __init__ __init_subclass__ " ++
      "__le__ __lt__ __ne__ __new__ __repr__ __setattr__ __sizeof__ __str__"
  | "int" =>
    "as_integer_ratio bit_count bit_length conjugate denominator from_bytes imag numerator real to_bytes __abs__ __add__ __and__ " ++
      "__bool__ __divmod__ __float__ __floordiv__ __index__ __int__ __invert__ __lshift__ __mod__ __mul__ __neg__ __or__ __pos__ " ++
      "__pow__ __radd__ __rmul__ __round__ __rshift__ __sub__ __truediv__ __xor__"
  | "float" =>
    "as_integer_ratio conjugate fromhex hex imag is_integer real __abs__ __add__ __bool__ __divmod__ __float__ __floordiv__ " ++
      "__int__ __mod__ __mul__ __neg__ __pos__ __pow__ __round__ __sub__ __truediv__ __trunc__"
  | "str" =>
    writtenMethods ++ " casefold encode format format_map isdecimal isidentifier isnumeric isprintable __add__ __contains__ " ++
      "__getitem__ __iter__ __len__ __mod__ __mul__"
  | "bytes" => writtenMethods ++ " decode fromhex hex __add__ __contains__ __getitem__ __iter__ __len__ __mul__"
  | "bytearray" =>
    writtenMethods ++ " decode fromhex hex append clear copy extend insert pop remove reverse __contains__ __getitem__ __iter__ __len__ " ++
      "__setitem__"
  | "list" =>
    "append clear copy count extend index insert pop remove reverse sort __add__ __contains__ __delitem__ __getitem__ __iadd__ " ++
      "__iter__ __len__ __mul__ __reversed__ __setitem__"
  | "tuple" => "count index __add__ __contains__ __getitem__ __iter__ __len__ __mul__"
  | "dict" =>
    "clear copy fromkeys get items keys pop popitem setdefault update values __contains__ __delitem__ __getitem__ __iter__ __len__ " ++
      "__reversed__ __setitem__"
  | "collections.OrderedDict" => "move_to_end"
  | "collections.defaultdict" => "default_factory"
  | "collections.Counter" => "elements most_common subtract total"
  | "os._Environ" => "clear copy get items keys pop popitem setdefault update values __contains__ __delitem__ __getitem__ __iter__ __len__ __setitem__"
  | "set" =>
    "add clear copy difference difference_update discard intersection intersection_update isdisjoint issubset issuperset pop " ++
      "remove symmetric_difference symmetric_difference_update union update __and__ __contains__ __iter__ __len__ __or__ __sub__ __xor__"
  | "frozenset" =>
    "copy difference intersection isdisjoint issubset issuperset symmetric_difference union __contains__ __iter__ __len__"
  | "collections.deque" =>
    "append appendleft clear copy count extend extendleft index insert maxlen pop popleft remove reverse rotate __contains__ " ++
      "__getitem__ __iter__ __len__ __setitem__"
  | "range" => "count index start step stop __contains__ __getitem__ __iter__ __len__ __reversed__"
  | "slice" => "indices start step stop"
  | "generator" => "close send throw __iter__ __next__"
  | "dict_keys" => "isdisjoint __contains__ __iter__ __len__"
  | "dict_items" => "isdisjoint __contains__ __iter__ __len__"
  | "dict_values" => "__iter__ __len__"
  | "property" => "deleter fdel fget fset getter setter"
  | "_io.TextIOWrapper" => channelMethods ++ " buffer encoding errors line_buffering write_through"
  | "_io.StringIO" => channelMethods ++ " encoding errors getvalue line_buffering"
  | "_io.BytesIO" => channelMethods ++ " getbuffer getvalue read1"
  | "_io.BufferedWriter" => channelMethods ++ " raw"
  | "_io.BufferedReader" => channelMethods ++ " raw peek read1 readinto"
  | "_io.FileIO" => channelMethods ++ " readall"
  | "re.Match" => "end endpos expand group groupdict groups lastgroup lastindex pos re span start string __getitem__"
  | "re.Pattern" => "findall finditer flags fullmatch groupindex groups match pattern search split sub subn"
  | "_hashlib.HASH" => "block_size copy digest digest_size hexdigest name update"
  | "subprocess.Popen" => "communicate kill poll send_signal terminate wait __enter__ __exit__ args pid returncode stderr stdin stdout"
  | "BaseException" => "add_note args with_traceback __cause__ __context__ __suppress_context__ __traceback__"
  | "type" => "mro __name__ __qualname__ __module__ __mro__ __bases__ __base__ __dict__ __subclasses__"
  | "memoryview" => "tobytes tolist hex release __getitem__ __len__"
  | "list_iterator" | "zip" | "map" | "filter" | "enumerate" | "reversed" => "__iter__ __next__"
  | _ => ""

def splitWords (cs : List Char) : List String :=
  ((cs.splitBy fun a b => (a == ' ') == (b == ' ')).filter (·.head? != some ' ')).map String.ofList

/-- The methods of all kinds that have some. -/
def methodTable : List (String × List String) :=
  (("object", "") :: kindParents).filterMap fun (k, _) =>
    let text := methodText k
    if text.isEmpty then none else some (k, splitWords text.toList)

/-- The methods of a kind that come with it, and not from what it comes from. -/
def ownMethods (k : String) : List String := (methodTable.lookup k).getD []

/-- Has a kind a method? -/
def hasMethod (k name : String) : Bool := (kindLine k).any fun k => (ownMethods k).contains name

end GrammarStudio.ObjectScript
