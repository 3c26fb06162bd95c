import PatchForge.Text.Blank

/-!
# Kinds of values

A field of a format template may look further than the texts of a
record, at what a text is made of: its kind, the kind's name, the
members that all values of the kind have. Few kinds can be reached. Each
has a table of the members of its own; those of all kinds are members
of `object`.
-/

namespace PatchForge.Format

inductive Kind where
  | object
  /-- the kind of kinds -/
  | kind
  | text
  | whole
  /-- the kind of what is not there -/
  | nothing
  | tuple
  /-- a method of a value -/
  | method
  /-- an operator of a value -/
  | operator
  | methodMember
  | slotMember
  | getterMember
  | fieldMember
  | classMember
  /-- the table of a kind's members -/
  | memberTable
  deriving DecidableEq, Repr, Inhabited

/-- How a member comes to a value. -/
inductive MemberSort where
  /-- an operator -/
  | slot
  | method
  /-- a method of the kind -/
  | classMethod
  /-- a method of neither the value nor its kind -/
  | static
  /-- a value that is worked out -/
  | getter
  /-- a value that is kept -/
  | field
  /-- one value for all -/
  | constant
  deriving DecidableEq, Repr, Inhabited

namespace Kind

def name : Kind → String
  | .object => "object"
  | .kind => "type"
  | .text => "str"
  | .whole => "int"
  | .nothing => "NoneType"
  | .tuple => "tuple"
  | .method => "builtin_function_or_method"
  | .operator => "method-wrapper"
  | .methodMember => "method_descriptor"
  | .slotMember => "wrapper_descriptor"
  | .getterMember => "getset_descriptor"
  | .fieldMember => "member_descriptor"
  | .classMember => "classmethod_descriptor"
  | .memberTable => "mappingproxy"

/-- The kind and those that it builds on. -/
def line : Kind → List Kind
  | .object => [.object]
  | k => [k, .object]

/-- The names of a kind's own members by their sorts, in order. -/
def members : Kind → List (MemberSort × String)
  | .object =>
    [(.static, "__new__"),
     (.slot, "__repr__ __hash__ __str__ __getattribute__ __setattr__ __delattr__ __lt__ __le__ " ++
       "__eq__ __ne__ __gt__ __ge__ __init__"),
     (.method, "__reduce_ex__ __reduce__ __getstate__ __format__ __sizeof__ __dir__"),
     (.classMethod, "__subclasshook__ __init_subclass__"),
     (.getter, "__class__"),
     (.constant, "__doc__")]
  | .kind =>
    [(.static, "__new__"),
     (.slot, "__repr__ __call__ __getattribute__ __setattr__ __delattr__ __init__ __or__ __ror__"),
     (.method, "mro __subclasses__ __instancecheck__ __subclasscheck__ __dir__ __sizeof__"),
     (.classMethod, "__prepare__"),
     (.field, "__basicsize__ __itemsize__ __flags__ __weakrefoffset__ __base__ __dictoffset__ " ++
       "__mro__"),
     (.getter, "__name__ __qualname__ __bases__ __module__ __abstractmethods__ __dict__ __doc__ " ++
       "__text_signature__ __annotations__")]
  | .text =>
    [(.static, "__new__ maketrans"),
     (.slot, "__repr__ __hash__ __str__ __getattribute__ __lt__ __le__ __eq__ __ne__ __gt__ " ++
       "__ge__ __iter__ __mod__ __rmod__ __len__ __getitem__ __add__ __mul__ __rmul__ " ++
       "__contains__"),
     (.method, "encode replace split rsplit join capitalize casefold title center count " ++
       "expandtabs find partition index ljust lower lstrip rfind rindex rjust rstrip " ++
       "rpartition splitlines strip swapcase translate upper startswith endswith " ++
       "removeprefix removesuffix isascii islower isupper istitle isspace isdecimal isdigit " ++
       "isnumeric isalpha isalnum isidentifier isprintable zfill format format_map " ++
       "__format__ __sizeof__ __getnewargs__"),
     (.constant, "__doc__")]
  | .whole =>
    [(.static, "__new__"),
     (.slot, "__repr__ __hash__ __getattribute__ __lt__ __le__ __eq__ __ne__ __gt__ __ge__ " ++
       "__add__ __radd__ __sub__ __rsub__ __mul__ __rmul__ __mod__ __rmod__ __divmod__ " ++
       "__rdivmod__ __pow__ __rpow__ __neg__ __pos__ __abs__ __bool__ __invert__ __lshift__ " ++
       "__rlshift__ __rshift__ __rrshift__ __and__ __rand__ __xor__ __rxor__ __or__ __ror__ " ++
       "__int__ __float__ __floordiv__ __rfloordiv__ __truediv__ __rtruediv__ __index__"),
     (.method, "conjugate bit_length bit_count to_bytes as_integer_ratio __trunc__ __floor__ " ++
       "__ceil__ __round__ __getnewargs__ __format__ __sizeof__"),
     (.classMethod, "from_bytes"),
     (.getter, "real imag numerator denominator"),
     (.constant, "__doc__")]
  | .nothing =>
    [(.static, "__new__"),
     (.slot, "__repr__ __bool__"),
     (.constant, "__doc__")]
  | .tuple =>
    [(.static, "__new__"),
     (.slot, "__repr__ __hash__ __getattribute__ __lt__ __le__ __eq__ __ne__ __gt__ __ge__ " ++
       "__iter__ __len__ __getitem__ __add__ __mul__ __rmul__ __contains__"),
     (.method, "__getnewargs__ index count"),
     (.classMethod, "__class_getitem__"),
     (.constant, "__doc__")]
  | .method =>
    [(.slot, "__repr__ __hash__ __call__ __getattribute__ __lt__ __le__ __eq__ __ne__ __gt__ " ++
       "__ge__"),
     (.method, "__reduce__"),
     (.field, "__module__"),
     (.getter, "__doc__ __name__ __qualname__ __self__ __text_signature__")]
  | .operator =>
    [(.slot, "__repr__ __hash__ __call__ __getattribute__ __lt__ __le__ __eq__ __ne__ __gt__ " ++
       "__ge__"),
     (.method, "__reduce__"),
     (.field, "__self__"),
     (.getter, "__objclass__ __name__ __qualname__ __doc__ __text_signature__")]
  | .methodMember =>
    [(.slot, "__repr__ __call__ __getattribute__ __get__"),
     (.method, "__reduce__"),
     (.field, "__objclass__ __name__"),
     (.getter, "__doc__ __qualname__ __text_signature__")]
  | .slotMember =>
    [(.slot, "__repr__ __call__ __getattribute__ __get__"),
     (.method, "__reduce__"),
     (.field, "__objclass__ __name__"),
     (.getter, "__doc__ __qualname__ __text_signature__")]
  | .getterMember =>
    [(.slot, "__repr__ __getattribute__ __get__ __set__ __delete__"),
     (.field, "__objclass__ __name__"),
     (.getter, "__doc__ __qualname__")]
  | .fieldMember =>
    [(.slot, "__repr__ __getattribute__ __get__ __set__ __delete__"),
     (.method, "__reduce__"),
     (.field, "__objclass__ __name__"),
     (.getter, "__doc__ __qualname__")]
  | .classMember =>
    [(.slot, "__repr__ __call__ __getattribute__ __get__"),
     (.field, "__objclass__ __name__"),
     (.getter, "__doc__ __qualname__ __text_signature__")]
  | .memberTable =>
    [(.static, "__new__"),
     (.slot, "__repr__ __str__ __getattribute__ __lt__ __le__ __eq__ __ne__ __gt__ __ge__ " ++
       "__iter__ __or__ __ror__ __ior__ __len__ __getitem__ __contains__"),
     (.method, "get keys values items copy __reversed__"),
     (.classMethod, "__class_getitem__"),
     (.constant, "__doc__ __hash__")]

/-- What a kind is said to be. -/
def description? : Kind → Option String
  | .object =>
    some ("The base class of the class hierarchy.\n\nWhen called, it accepts no arguments " ++
     "and returns a new featureless\ninstance that has no instance attributes and cannot " ++
     "be given any.\n")
  | .kind =>
    some "type(object) -> the object's type\ntype(name, bases, dict, **kwds) -> a new type"
  | .text =>
    some ("str(object='') -> str\nstr(bytes_or_buffer[, encoding[, errors]]) -> str\n\n" ++
     "Create a new string object from the given object. If encoding or\nerrors is " ++
     "specified, then the object must expose a data buffer\nthat will be decoded using the " ++
     "given encoding and error handler.\nOtherwise, returns the result of object.__str__() " ++
     "(if defined)\nor repr(object).\nencoding defaults to sys.getdefaultencoding().\n" ++
     "errors defaults to 'strict'.")
  | .whole =>
    some ("int([x]) -> integer\nint(x, base=10) -> integer\n\nConvert a number or string to " ++
     "an integer, or return 0 if no arguments\nare given.  If x is a number, return " ++
     "x.__int__().  For floating point\nnumbers, this truncates towards zero.\n\nIf x is " ++
     "not a number or if base is given, then x must be a string,\nbytes, or bytearray " ++
     "instance representing an integer literal in the\ngiven base.  The literal can be " ++
     "preceded by '+' or '-' and be surrounded\nby whitespace.  The base defaults to 10.  " ++
     "Valid bases are 0 and 2-36.\nBase 0 means to interpret the base from the string as " ++
     "an integer literal.\n>>> int('0b100', base=0)\n4")
  | .tuple =>
    some ("Built-in immutable sequence.\n\nIf no argument is given, the constructor returns " ++
     "an empty tuple.\nIf iterable is specified the tuple is initialized from iterable's " ++
     "items.\n\nIf the argument is a tuple, the return value is the same object.")
  | _ => none

/-- The call that makes a value of a kind. -/
def signature? : Kind → Option String
  | .object => some "()"
  | .tuple => some "(iterable=(), /)"
  | _ => none

/-- The room that values of a kind take, and where parts of them lie. -/
structure Layout where
  size : Nat
  itemSize : Nat
  flags : Nat
  references : Nat
  fields : Nat

def layout : Kind → Layout
  | .object => ⟨16, 0, 529664, 0, 0⟩
  | .kind => ⟨904, 40, 2148031744, 368, 264⟩
  | .text => ⟨80, 0, 273159424, 0, 0⟩
  | .whole => ⟨24, 4, 21501184, 0, 0⟩
  | .nothing => ⟨16, 0, 528640, 0, 0⟩
  | .tuple => ⟨24, 8, 71849248, 0, 0⟩
  | .method => ⟨56, 0, 547200, 40, 0⟩
  | .operator => ⟨32, 0, 545152, 0, 0⟩
  | .methodMember => ⟨56, 0, 678272, 0, 0⟩
  | .slotMember => ⟨56, 0, 676224, 0, 0⟩
  | .getterMember => ⟨48, 0, 545152, 0, 0⟩
  | .fieldMember => ⟨48, 0, 545152, 0, 0⟩
  | .classMember => ⟨56, 0, 545152, 0, 0⟩
  | .memberTable => ⟨24, 0, 545088, 0, 0⟩

end Kind

/-- A member of a kind. -/
structure Member where
  owner : Kind
  sort : MemberSort
  name : String
  deriving DecidableEq, Repr, Inhabited

namespace Kind

/-- The members that a kind itself has, in order. -/
def own (k : Kind) : List Member :=
  k.members.flatMap fun e => (Text.words e.2).map fun name => ⟨k, e.1, name⟩

def own? (k : Kind) (name : String) : Option Member :=
  k.own.find? (·.name = name)

/-- The member that values of a kind have under a name. -/
def member? (k : Kind) (name : String) : Option Member :=
  k.line.findSome? fun base => base.own? name

end Kind

end PatchForge.Format
