import Bindery.Context

/-!
# Included headers

An implementation includes the native header of every class that it mentions, each once and in
the order of their names.  Only classes of the framework have such headers: the name begins as
framework names do and not as those of pure namespaces, and it is the string class or a known
class outside the main module.
-/

namespace Bindery

namespace Context

/-- Whether a mentioned name has a native header of its own. -/
def hasHeader (ctx : Context) (name : String) : Bool :=
  let framework := ctx.config.framework
  Text.startsWith name framework.namespacePrefix
    && (framework.reservedPrefix == "" || !Text.startsWith name framework.reservedPrefix)
    && (name == framework.stringClass
      || (ctx.registry.moduleOf? name).any fun module => !ctx.config.isMain module)

/-- The headers to include for the names that are mentioned. -/
def includes (ctx : Context) (mentioned : List String) : List String :=
  Text.sorted (mentioned.eraseDups.filter ctx.hasHeader)

end Context

/-- The names that have to be declared where a kind is used. -/
def TypeKind.mentioned (stringClass : String) (k : TypeKind) : List String :=
  match k with
  | .string => [stringClass]
  | k => k.referenced?.toList

end Bindery
