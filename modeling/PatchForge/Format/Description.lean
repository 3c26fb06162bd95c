/-!
# What members are said to do

Each member of a kind has a line on how it is called and a text on what
it does; some lack one or both. Members of one name are described alike
in all kinds, but for those under the name of their kind.
-/

namespace PatchForge.Format

/-- How a member is called, and what it does. -/
structure Description where
  signature : Option String
  text : Option String
  deriving Inhabited

def descriptions : List (String × Description) :=
  [("__abs__", ⟨some "($self, /)", some "abs(self)"⟩),
   ("__add__", ⟨some "($self, value, /)", some "Return self+value."⟩),
   ("__and__", ⟨some "($self, value, /)", some "Return self&value."⟩),
   ("__bool__", ⟨some "($self, /)", some "True if self else False"⟩),
   ("__call__", ⟨some "($self, /, *args, **kwargs)", some "Call self as a function."⟩),
   ("__ceil__", ⟨none, some "Ceiling of an Integral returns itself."⟩),
   ("__class__", ⟨none, some "the object's class"⟩),
   ("__class_getitem__", ⟨none, some "See PEP 585"⟩),
   ("__contains__", ⟨some "($self, key, /)", some "Return key in self."⟩),
   ("__delattr__", ⟨some "($self, name, /)", some "Implement delattr(self, name)."⟩),
   ("__delete__", ⟨some "($self, instance, /)", some "Delete an attribute of instance."⟩),
   ("__dir__", ⟨some "($self, /)", some "Default dir() implementation."⟩),
   ("type.__dir__", ⟨some "($self, /)", some "Specialized __dir__ implementation for types."⟩),
   ("__divmod__", ⟨some "($self, value, /)", some "Return divmod(self, value)."⟩),
   ("__eq__", ⟨some "($self, value, /)", some "Return self==value."⟩),
   ("__float__", ⟨some "($self, /)", some "float(self)"⟩),
   ("__floor__", ⟨none, some "Flooring an Integral returns itself."⟩),
   ("__floordiv__", ⟨some "($self, value, /)", some "Return self//value."⟩),
   ("__format__", ⟨some "($self, format_spec, /)", some "Default object formatter."⟩),
   ("str.__format__", ⟨some "($self, format_spec, /)",
     some "Return a formatted version of the string as described by format_spec."⟩),
   ("int.__format__", ⟨some "($self, format_spec, /)", none⟩),
   ("__ge__", ⟨some "($self, value, /)", some "Return self>=value."⟩),
   ("__get__", ⟨some "($self, instance, owner=None, /)",
     some "Return an attribute of instance, which is of type owner."⟩),
   ("__getattribute__", ⟨some "($self, name, /)", some "Return getattr(self, name)."⟩),
   ("__getitem__", ⟨some "($self, key, /)", some "Return self[key]."⟩),
   ("__getnewargs__", ⟨some "($self, /)", none⟩),
   ("str.__getnewargs__", ⟨none, none⟩),
   ("__getstate__", ⟨some "($self, /)", some "Helper for pickle."⟩),
   ("__gt__", ⟨some "($self, value, /)", some "Return self>value."⟩),
   ("__hash__", ⟨some "($self, /)", some "Return hash(self)."⟩),
   ("__index__", ⟨some "($self, /)",
     some ("Return self converted to an integer, if self is suitable for use as an index " ++
     "into a list.")⟩),
   ("__init__", ⟨some "($self, /, *args, **kwargs)",
     some "Initialize self.  See help(type(self)) for accurate signature."⟩),
   ("__init_subclass__", ⟨none,
     some ("This method is called when a class is subclassed.\n\nThe default implementation " ++
     "does nothing. It may be\noverridden to extend subclasses.\n")⟩),
   ("__instancecheck__", ⟨some "($self, instance, /)",
     some "Check if an object is an instance."⟩),
   ("__int__", ⟨some "($self, /)", some "int(self)"⟩),
   ("__invert__", ⟨some "($self, /)", some "~self"⟩),
   ("__ior__", ⟨some "($self, value, /)", some "Return self|=value."⟩),
   ("__iter__", ⟨some "($self, /)", some "Implement iter(self)."⟩),
   ("__le__", ⟨some "($self, value, /)", some "Return self<=value."⟩),
   ("__len__", ⟨some "($self, /)", some "Return len(self)."⟩),
   ("__lshift__", ⟨some "($self, value, /)", some "Return self<<value."⟩),
   ("__lt__", ⟨some "($self, value, /)", some "Return self<value."⟩),
   ("__mod__", ⟨some "($self, value, /)", some "Return self%value."⟩),
   ("__mul__", ⟨some "($self, value, /)", some "Return self*value."⟩),
   ("__ne__", ⟨some "($self, value, /)", some "Return self!=value."⟩),
   ("__neg__", ⟨some "($self, /)", some "-self"⟩),
   ("__new__", ⟨some "($type, *args, **kwargs)",
     some "Create and return a new object.  See help(type) for accurate signature."⟩),
   ("__or__", ⟨some "($self, value, /)", some "Return self|value."⟩),
   ("__pos__", ⟨some "($self, /)", some "+self"⟩),
   ("__pow__", ⟨some "($self, value, mod=None, /)", some "Return pow(self, value, mod)."⟩),
   ("__prepare__", ⟨none,
     some "__prepare__() -> dict\nused to create the namespace for the class statement"⟩),
   ("__radd__", ⟨some "($self, value, /)", some "Return value+self."⟩),
   ("__rand__", ⟨some "($self, value, /)", some "Return value&self."⟩),
   ("__rdivmod__", ⟨some "($self, value, /)", some "Return divmod(value, self)."⟩),
   ("object.__reduce__", ⟨some "($self, /)", some "Helper for pickle."⟩),
   ("__reduce_ex__", ⟨some "($self, protocol, /)", some "Helper for pickle."⟩),
   ("__repr__", ⟨some "($self, /)", some "Return repr(self)."⟩),
   ("__reversed__", ⟨none, some "D.__reversed__() -> reverse iterator"⟩),
   ("__rfloordiv__", ⟨some "($self, value, /)", some "Return value//self."⟩),
   ("__rlshift__", ⟨some "($self, value, /)", some "Return value<<self."⟩),
   ("__rmod__", ⟨some "($self, value, /)", some "Return value%self."⟩),
   ("__rmul__", ⟨some "($self, value, /)", some "Return value*self."⟩),
   ("__ror__", ⟨some "($self, value, /)", some "Return value|self."⟩),
   ("__round__", ⟨some "($self, ndigits=<unrepresentable>, /)",
     some ("Rounding an Integral returns itself.\n\nRounding with an ndigits argument also " ++
     "returns an integer.")⟩),
   ("__rpow__", ⟨some "($self, value, mod=None, /)", some "Return pow(value, self, mod)."⟩),
   ("__rrshift__", ⟨some "($self, value, /)", some "Return value>>self."⟩),
   ("__rshift__", ⟨some "($self, value, /)", some "Return self>>value."⟩),
   ("__rsub__", ⟨some "($self, value, /)", some "Return value-self."⟩),
   ("__rtruediv__", ⟨some "($self, value, /)", some "Return value/self."⟩),
   ("__rxor__", ⟨some "($self, value, /)", some "Return value^self."⟩),
   ("__set__", ⟨some "($self, instance, value, /)",
     some "Set an attribute of instance to value."⟩),
   ("__setattr__", ⟨some "($self, name, value, /)",
     some "Implement setattr(self, name, value)."⟩),
   ("__sizeof__", ⟨some "($self, /)", some "Size of object in memory, in bytes."⟩),
   ("type.__sizeof__", ⟨some "($self, /)", some "Return memory consumption of the type object."⟩),
   ("str.__sizeof__", ⟨some "($self, /)",
     some "Return the size of the string in memory, in bytes."⟩),
   ("int.__sizeof__", ⟨some "($self, /)", some "Returns size in memory, in bytes."⟩),
   ("__str__", ⟨some "($self, /)", some "Return str(self)."⟩),
   ("__sub__", ⟨some "($self, value, /)", some "Return self-value."⟩),
   ("__subclasscheck__", ⟨some "($self, subclass, /)", some "Check if a class is a subclass."⟩),
   ("__subclasses__", ⟨some "($self, /)", some "Return a list of immediate subclasses."⟩),
   ("__subclasshook__", ⟨none,
     some ("Abstract classes can override this to customize issubclass().\n\nThis is " ++
     "invoked early on by abc.ABCMeta.__subclasscheck__().\nIt should return True, False " ++
     "or NotImplemented.  If it returns\nNotImplemented, the normal algorithm is used.  " ++
     "Otherwise, it\noverrides the normal algorithm (and the outcome is cached).\n")⟩),
   ("__truediv__", ⟨some "($self, value, /)", some "Return self/value."⟩),
   ("__trunc__", ⟨none, some "Truncating an Integral returns itself."⟩),
   ("__xor__", ⟨some "($self, value, /)", some "Return self^value."⟩),
   ("as_integer_ratio", ⟨some "($self, /)",
     some ("Return integer ratio.\n\nReturn a pair of integers, whose ratio is exactly " ++
     "equal to the original int\nand with a positive denominator.\n\n>>> " ++
     "(10).as_integer_ratio()\n(10, 1)\n>>> (-10).as_integer_ratio()\n(-10, 1)\n>>> " ++
     "(0).as_integer_ratio()\n(0, 1)")⟩),
   ("bit_count", ⟨some "($self, /)",
     some ("Number of ones in the binary representation of the absolute value of self.\n\n" ++
     "Also known as the population count.\n\n>>> bin(13)\n'0b1101'\n>>> (13).bit_count()\n3")⟩),
   ("bit_length", ⟨some "($self, /)",
     some ("Number of bits necessary to represent self in binary.\n\n>>> bin(37)\n" ++
     "'0b100101'\n>>> (37).bit_length()\n6")⟩),
   ("capitalize", ⟨some "($self, /)",
     some ("Return a capitalized version of the string.\n\nMore specifically, make the " ++
     "first character have upper case and the rest lower\ncase.")⟩),
   ("casefold", ⟨some "($self, /)",
     some "Return a version of the string suitable for caseless comparisons."⟩),
   ("center", ⟨some "($self, width, fillchar=' ', /)",
     some ("Return a centered string of length width.\n\nPadding is done using the " ++
     "specified fill character (default is a space).")⟩),
   ("conjugate", ⟨none, some "Returns self, the complex conjugate of any int."⟩),
   ("copy", ⟨none, some "D.copy() -> a shallow copy of D"⟩),
   ("count", ⟨none,
     some ("S.count(sub[, start[, end]]) -> int\n\nReturn the number of non-overlapping " ++
     "occurrences of substring sub in\nstring S[start:end].  Optional arguments start and " ++
     "end are\ninterpreted as in slice notation.")⟩),
   ("tuple.count", ⟨some "($self, value, /)", some "Return number of occurrences of value."⟩),
   ("denominator", ⟨none, some "the denominator of a rational number in lowest terms"⟩),
   ("encode", ⟨some "($self, /, encoding='utf-8', errors='strict')",
     some ("Encode the string using the codec registered for encoding.\n\n  encoding\n    " ++
     "The encoding in which to encode the string.\n  errors\n    The error handling scheme " ++
     "to use for encoding errors.\n    The default is 'strict' meaning that encoding " ++
     "errors raise a\n    UnicodeEncodeError.  Other possible values are 'ignore', " ++
     "'replace' and\n    'xmlcharrefreplace' as well as any other name registered " ++
     "with\n    codecs.register_error that can handle UnicodeEncodeErrors.")⟩),
   ("endswith", ⟨none,
     some ("S.endswith(suffix[, start[, end]]) -> bool\n\nReturn True if S ends with the " ++
     "specified suffix, False otherwise.\nWith optional start, test S beginning at that " ++
     "position.\nWith optional end, stop comparing S at that position.\nsuffix can also be " ++
     "a tuple of strings to try.")⟩),
   ("expandtabs", ⟨some "($self, /, tabsize=8)",
     some ("Return a copy where all tab characters are expanded using spaces.\n\nIf tabsize " ++
     "is not given, a tab size of 8 characters is assumed.")⟩),
   ("find", ⟨none,
     some ("S.find(sub[, start[, end]]) -> int\n\nReturn the lowest index in S where " ++
     "substring sub is found,\nsuch that sub is contained within S[start:end].  Optional\n" ++
     "arguments start and end are interpreted as in slice notation.\n\nReturn -1 on " ++
     "failure.")⟩),
   ("format", ⟨none,
     some ("S.format(*args, **kwargs) -> str\n\nReturn a formatted version of S, using " ++
     "substitutions from args and kwargs.\nThe substitutions are identified by braces " ++
     "('\x7b' and '\x7d').")⟩),
   ("format_map", ⟨none,
     some ("S.format_map(mapping) -> str\n\nReturn a formatted version of S, using " ++
     "substitutions from mapping.\nThe substitutions are identified by braces ('\x7b' and " ++
     "'\x7d').")⟩),
   ("from_bytes", ⟨some "($type, /, bytes, byteorder='big', *, signed=False)",
     some ("Return the integer represented by the given array of bytes.\n\n  bytes\n    " ++
     "Holds the array of bytes to convert.  The argument must either\n    support the " ++
     "buffer protocol or be an iterable object producing bytes.\n    Bytes and bytearray " ++
     "are examples of built-in objects that support the\n    buffer protocol.\n  " ++
     "byteorder\n    The byte order used to represent the integer.  If byteorder is " ++
     "'big',\n    the most significant byte is at the beginning of the byte array.  " ++
     "If\n    byteorder is 'little', the most significant byte is at the end of the\n    " ++
     "byte array.  To request the native byte order of the host system, use\n    " ++
     "`sys.byteorder' as the byte order value.  Default is to use 'big'.\n  signed\n    " ++
     "Indicates whether two's complement is used to represent the integer.")⟩),
   ("get", ⟨none, some "D.get(k[,d]) -> D[k] if k in D, else d.  d defaults to None."⟩),
   ("imag", ⟨none, some "the imaginary part of a complex number"⟩),
   ("index", ⟨none,
     some ("S.index(sub[, start[, end]]) -> int\n\nReturn the lowest index in S where " ++
     "substring sub is found,\nsuch that sub is contained within S[start:end].  Optional\n" ++
     "arguments start and end are interpreted as in slice notation.\n\nRaises ValueError " ++
     "when the substring is not found.")⟩),
   ("tuple.index", ⟨some "($self, value, start=0, stop=sys.maxsize, /)",
     some "Return first index of value.\n\nRaises ValueError if the value is not present."⟩),
   ("isalnum", ⟨some "($self, /)",
     some ("Return True if the string is an alpha-numeric string, False otherwise.\n\nA " ++
     "string is alpha-numeric if all characters in the string are alpha-numeric and\nthere " ++
     "is at least one character in the string.")⟩),
   ("isalpha", ⟨some "($self, /)",
     some ("Return True if the string is an alphabetic string, False otherwise.\n\nA string " ++
     "is alphabetic if all characters in the string are alphabetic and there\nis at least " ++
     "one character in the string.")⟩),
   ("isascii", ⟨some "($self, /)",
     some ("Return True if all characters in the string are ASCII, False otherwise.\n\n" ++
     "ASCII characters have code points in the range U+0000-U+007F.\nEmpty string is ASCII " ++
     "too.")⟩),
   ("isdecimal", ⟨some "($self, /)",
     some ("Return True if the string is a decimal string, False otherwise.\n\nA string is " ++
     "a decimal string if all characters in the string are decimal and\nthere is at least " ++
     "one character in the string.")⟩),
   ("isdigit", ⟨some "($self, /)",
     some ("Return True if the string is a digit string, False otherwise.\n\nA string is a " ++
     "digit string if all characters in the string are digits and there\nis at least one " ++
     "character in the string.")⟩),
   ("isidentifier", ⟨some "($self, /)",
     some ("Return True if the string is a valid Python identifier, False otherwise.\n\n" ++
     "Call keyword.iskeyword(s) to test whether string s is a reserved identifier,\nsuch " ++
     "as \"def\" or \"class\".")⟩),
   ("islower", ⟨some "($self, /)",
     some ("Return True if the string is a lowercase string, False otherwise.\n\nA string " ++
     "is lowercase if all cased characters in the string are lowercase and\nthere is at " ++
     "least one cased character in the string.")⟩),
   ("isnumeric", ⟨some "($self, /)",
     some ("Return True if the string is a numeric string, False otherwise.\n\nA string is " ++
     "numeric if all characters in the string are numeric and there is at\nleast one " ++
     "character in the string.")⟩),
   ("isprintable", ⟨some "($self, /)",
     some ("Return True if the string is printable, False otherwise.\n\nA string is " ++
     "printable if all of its characters are considered printable in\nrepr() or if it is " ++
     "empty.")⟩),
   ("isspace", ⟨some "($self, /)",
     some ("Return True if the string is a whitespace string, False otherwise.\n\nA string " ++
     "is whitespace if all characters in the string are whitespace and there\nis at least " ++
     "one character in the string.")⟩),
   ("istitle", ⟨some "($self, /)",
     some ("Return True if the string is a title-cased string, False otherwise.\n\nIn a " ++
     "title-cased string, upper- and title-case characters may only\nfollow uncased " ++
     "characters and lowercase characters only cased ones.")⟩),
   ("isupper", ⟨some "($self, /)",
     some ("Return True if the string is an uppercase string, False otherwise.\n\nA string " ++
     "is uppercase if all cased characters in the string are uppercase and\nthere is at " ++
     "least one cased character in the string.")⟩),
   ("items", ⟨none, some "D.items() -> a set-like object providing a view on D's items"⟩),
   ("join", ⟨some "($self, iterable, /)",
     some ("Concatenate any number of strings.\n\nThe string whose method is called is " ++
     "inserted in between each given string.\nThe result is returned as a new string.\n\n" ++
     "Example: '.'.join(['ab', 'pq', 'rs']) -> 'ab.pq.rs'")⟩),
   ("keys", ⟨none, some "D.keys() -> a set-like object providing a view on D's keys"⟩),
   ("ljust", ⟨some "($self, width, fillchar=' ', /)",
     some ("Return a left-justified string of length width.\n\nPadding is done using the " ++
     "specified fill character (default is a space).")⟩),
   ("lower", ⟨some "($self, /)", some "Return a copy of the string converted to lowercase."⟩),
   ("lstrip", ⟨some "($self, chars=None, /)",
     some ("Return a copy of the string with leading whitespace removed.\n\nIf chars is " ++
     "given and not None, remove characters in chars instead.")⟩),
   ("maketrans", ⟨some "(x, y=<unrepresentable>, z=<unrepresentable>, /)",
     some ("Return a translation table usable for str.translate().\n\nIf there is only one " ++
     "argument, it must be a dictionary mapping Unicode\nordinals (integers) or characters " ++
     "to Unicode ordinals, strings or None.\nCharacter keys will be then converted to " ++
     "ordinals.\nIf there are two arguments, they must be strings of equal length, and\nin " ++
     "the resulting dictionary, each character in x will be mapped to the\ncharacter at " ++
     "the same position in y. If there is a third argument, it\nmust be a string, whose " ++
     "characters will be mapped to None in the result.")⟩),
   ("mro", ⟨some "($self, /)", some "Return a type's method resolution order."⟩),
   ("numerator", ⟨none, some "the numerator of a rational number in lowest terms"⟩),
   ("partition", ⟨some "($self, sep, /)",
     some ("Partition the string into three parts using the given separator.\n\nThis will " ++
     "search for the separator in the string.  If the separator is found,\nreturns a " ++
     "3-tuple containing the part before the separator, the separator\nitself, and the " ++
     "part after it.\n\nIf the separator is not found, returns a 3-tuple containing the " ++
     "original string\nand two empty strings.")⟩),
   ("real", ⟨none, some "the real part of a complex number"⟩),
   ("removeprefix", ⟨some "($self, prefix, /)",
     some ("Return a str with the given prefix string removed if present.\n\nIf the string " ++
     "starts with the prefix string, return string[len(prefix):].\nOtherwise, return a " ++
     "copy of the original string.")⟩),
   ("removesuffix", ⟨some "($self, suffix, /)",
     some ("Return a str with the given suffix string removed if present.\n\nIf the string " ++
     "ends with the suffix string and that suffix is not empty,\nreturn " ++
     "string[:-len(suffix)]. Otherwise, return a copy of the original\nstring.")⟩),
   ("replace", ⟨some "($self, old, new, count=-1, /)",
     some ("Return a copy with all occurrences of substring old replaced by new.\n\n  " ++
     "count\n    Maximum number of occurrences to replace.\n    -1 (the default value) " ++
     "means replace all occurrences.\n\nIf the optional argument count is given, only the " ++
     "first count occurrences are\nreplaced.")⟩),
   ("rfind", ⟨none,
     some ("S.rfind(sub[, start[, end]]) -> int\n\nReturn the highest index in S where " ++
     "substring sub is found,\nsuch that sub is contained within S[start:end].  Optional\n" ++
     "arguments start and end are interpreted as in slice notation.\n\nReturn -1 on " ++
     "failure.")⟩),
   ("rindex", ⟨none,
     some ("S.rindex(sub[, start[, end]]) -> int\n\nReturn the highest index in S where " ++
     "substring sub is found,\nsuch that sub is contained within S[start:end].  Optional\n" ++
     "arguments start and end are interpreted as in slice notation.\n\nRaises ValueError " ++
     "when the substring is not found.")⟩),
   ("rjust", ⟨some "($self, width, fillchar=' ', /)",
     some ("Return a right-justified string of length width.\n\nPadding is done using the " ++
     "specified fill character (default is a space).")⟩),
   ("rpartition", ⟨some "($self, sep, /)",
     some ("Partition the string into three parts using the given separator.\n\nThis will " ++
     "search for the separator in the string, starting at the end. If\nthe separator is " ++
     "found, returns a 3-tuple containing the part before the\nseparator, the separator " ++
     "itself, and the part after it.\n\nIf the separator is not found, returns a 3-tuple " ++
     "containing two empty strings\nand the original string.")⟩),
   ("rsplit", ⟨some "($self, /, sep=None, maxsplit=-1)",
     some ("Return a list of the substrings in the string, using sep as the separator " ++
     "string.\n\n  sep\n    The separator used to split the string.\n\n    When set to " ++
     "None (the default value), will split on any whitespace\n    character (including \\n " ++
     "\\r \\t \\f and spaces) and will discard\n    empty strings from the result.\n  " ++
     "maxsplit\n    Maximum number of splits.\n    -1 (the default value) means no limit.\n" ++
     "\nSplitting starts at the end of the string and works to the front.")⟩),
   ("rstrip", ⟨some "($self, chars=None, /)",
     some ("Return a copy of the string with trailing whitespace removed.\n\nIf chars is " ++
     "given and not None, remove characters in chars instead.")⟩),
   ("split", ⟨some "($self, /, sep=None, maxsplit=-1)",
     some ("Return a list of the substrings in the string, using sep as the separator " ++
     "string.\n\n  sep\n    The separator used to split the string.\n\n    When set to " ++
     "None (the default value), will split on any whitespace\n    character (including \\n " ++
     "\\r \\t \\f and spaces) and will discard\n    empty strings from the result.\n  " ++
     "maxsplit\n    Maximum number of splits.\n    -1 (the default value) means no limit.\n" ++
     "\nSplitting starts at the front of the string and works to the end.\n\nNote, " ++
     "str.split() is mainly useful for data that has been intentionally\ndelimited.  With " ++
     "natural text that includes punctuation, consider using\nthe regular expression " ++
     "module.")⟩),
   ("splitlines", ⟨some "($self, /, keepends=False)",
     some ("Return a list of the lines in the string, breaking at line boundaries.\n\nLine " ++
     "breaks are not included in the resulting list unless keepends is given and\ntrue.")⟩),
   ("startswith", ⟨none,
     some ("S.startswith(prefix[, start[, end]]) -> bool\n\nReturn True if S starts with " ++
     "the specified prefix, False otherwise.\nWith optional start, test S beginning at " ++
     "that position.\nWith optional end, stop comparing S at that position.\nprefix can " ++
     "also be a tuple of strings to try.")⟩),
   ("strip", ⟨some "($self, chars=None, /)",
     some ("Return a copy of the string with leading and trailing whitespace removed.\n\nIf " ++
     "chars is given and not None, remove characters in chars instead.")⟩),
   ("swapcase", ⟨some "($self, /)",
     some "Convert uppercase characters to lowercase and lowercase characters to uppercase."⟩),
   ("title", ⟨some "($self, /)",
     some ("Return a version of the string where each word is titlecased.\n\nMore " ++
     "specifically, words start with uppercased characters and all remaining\ncased " ++
     "characters have lower case.")⟩),
   ("to_bytes", ⟨some "($self, /, length=1, byteorder='big', *, signed=False)",
     some ("Return an array of bytes representing an integer.\n\n  length\n    Length of " ++
     "bytes object to use.  An OverflowError is raised if the\n    integer is not " ++
     "representable with the given number of bytes.  Default\n    is length 1.\n  " ++
     "byteorder\n    The byte order used to represent the integer.  If byteorder is " ++
     "'big',\n    the most significant byte is at the beginning of the byte array.  " ++
     "If\n    byteorder is 'little', the most significant byte is at the end of the\n    " ++
     "byte array.  To request the native byte order of the host system, use\n    " ++
     "`sys.byteorder' as the byte order value.  Default is to use 'big'.\n  signed\n    " ++
     "Determines whether two's complement is used to represent the integer.\n    If signed " ++
     "is False and a negative integer is given, an OverflowError\n    is raised.")⟩),
   ("translate", ⟨some "($self, table, /)",
     some ("Replace each character in the string using the given translation table.\n\n  " ++
     "table\n    Translation table, which must be a mapping of Unicode ordinals to\n    " ++
     "Unicode ordinals, strings, or None.\n\nThe table must implement lookup/indexing via " ++
     "__getitem__, for instance a\ndictionary or list.  If this operation raises " ++
     "LookupError, the character is\nleft untouched.  Characters mapped to None are " ++
     "deleted.")⟩),
   ("upper", ⟨some "($self, /)", some "Return a copy of the string converted to uppercase."⟩),
   ("values", ⟨none, some "D.values() -> an object providing a view on D's values"⟩),
   ("zfill", ⟨some "($self, width, /)",
     some ("Pad a numeric string with zeros on the left, to fill a field of the given " ++
     "width.\n\nThe string is never truncated.")⟩)]

/-- The description of a member, by the name of its kind and its own. -/
def description (kind name : String) : Description :=
  ((List.lookup (kind ++ "." ++ name) descriptions).or (List.lookup name descriptions)).getD default

end PatchForge.Format
