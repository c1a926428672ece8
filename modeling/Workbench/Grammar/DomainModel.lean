import Workbench.Grammar.Compile
/-!
# The domain-model language

A small language of packages, data types, entities with features, and
aliases. An alias refers to every type of its name that is in scope.

```text
package shop {
    datatype String
    entity Item { name: String  tags: String [8] }
    abstract entity Base {}
    entity Order extends Base { many items: Item }
    alias Thing for Item
}
```
-/

namespace Workbench

namespace DomainModel

/-- The extension of domain-model files. -/
def fileExtension : String := ".dmodel"

/-- The terminals, in order of preference. -/
def terminals : List TerminalDef :=
  [⟨"WS", "\\s+", .skip, .text⟩,
   ⟨"ML_COMMENT", "/\\*[\\s\\S]*?\\*/", .hidden, .text⟩,
   ⟨"SL_COMMENT", "//[^\\n\\r]*", .hidden, .text⟩,
   ⟨"ID", "[_a-zA-Z][\\w]*", .token, .text⟩,
   ⟨"INT", "[0-9]+", .token, .int⟩,
   ⟨"STRING", "\"[^\"]*\"|'[^']*'", .token, .quoted⟩]

/-- A feature that holds one identifier. -/
def nameFeature (feature : String) : Expr := .assign feature .set (.terminal "ID")

/-- The elements of a model or package. -/
def elements : Expr := .repeated .many (.assign "elements" .append (.call "AbstractElement"))

/-- The rules, the entry first. -/
def rules : List RuleDef :=
  [⟨"Domainmodel", some "Domainmodel", elements⟩,
   ⟨"AbstractElement", none, .alt [.call "PackageDeclaration", .call "Type", .call "Alias"]⟩,
   ⟨"PackageDeclaration", some "PackageDeclaration",
     .seq [.keyword "package", nameFeature "name", .keyword "\x7b", elements, .keyword "\x7d"]⟩,
   ⟨"Type", none, .alt [.call "DataType", .call "Entity"]⟩,
   ⟨"DataType", some "DataType",
     .seq [.keyword "datatype", nameFeature "name",
       .repeated .optional
         (.seq [.keyword "as", .assign "format" .set (.terminal "STRING")])]⟩,
   ⟨"Entity", some "Entity",
     .seq [.repeated .optional (.assign "abstract" .flag (.keyword "abstract")),
       .keyword "entity", nameFeature "name",
       .repeated .optional
         (.seq [.keyword "extends", .assign "superType" .set (.crossRef "Entity" "ID" false)]),
       .keyword "\x7b",
       .repeated .many (.assign "features" .append (.call "Feature")),
       .keyword "\x7d"]⟩,
   ⟨"Feature", some "Feature",
     .seq [.repeated .optional (.assign "many" .flag (.keyword "many")),
       nameFeature "name", .keyword ":",
       .assign "type" .set (.crossRef "Type" "ID" false),
       .repeated .optional
         (.seq [.keyword "[", .assign "size" .set (.terminal "INT"), .keyword "]"])]⟩,
   ⟨"Alias", some "Alias",
     .seq [.keyword "alias", nameFeature "name", .keyword "for",
       .assign "targets" .set (.crossRef "Type" "ID" true)]⟩]

/-- The definition of the language. -/
def definition : Definition := ⟨"DomainModel", terminals, rules, some "Domainmodel"⟩

/-- **The compiled grammar of the language.** -/
def grammar : Grammar := definition.grammar

end DomainModel

end Workbench
