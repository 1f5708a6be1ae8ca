/-! The built-in scalar types are shown by their keywords. -/

namespace TagTooltips.Signature

def aliases : List (String × String) :=
  [("System.Byte", "byte"), ("System.SByte", "sbyte"), ("System.Int32", "int"),
   ("System.UInt32", "uint"), ("System.Int16", "short"), ("System.UInt16", "ushort"),
   ("System.Int64", "long"), ("System.UInt64", "ulong"), ("System.Single", "float"),
   ("System.Double", "double"), ("System.Char", "char"), ("System.Boolean", "bool"),
   ("System.Object", "object"), ("System.String", "string"), ("System.Decimal", "decimal")]

def displayName (typeName : String) : String := (aliases.lookup typeName).getD typeName

end TagTooltips.Signature
