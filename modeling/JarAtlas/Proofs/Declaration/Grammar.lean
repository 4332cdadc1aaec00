import JarAtlas.Declaration.Parser

/-!
# The grammar of class declarations

The language that `parse` reads, stated without a reader: the terminals of a declaration line, how a
line is cut into them, and the rules by which trees derive sequences of terminals. A tree is the
value that the line denotes, so a derivation is unique when its tree is.

Each rule is named after the tree that it derives. The only rule that repeats inside others is the
list with a terminal between neighbours; `Separated` states it once for every kind of item.
-/

namespace JarAtlas.Declaration

/-- The terminals of a declaration line. -/
inductive Token
  | modifier (word : Text)
  | kind (kind : ClassKind)
  | identifier (name : Text)
  | symbol (spelling : Text)
deriving DecidableEq, Repr

/-- The terminals that have one spelling each: punctuation, and the keywords behind the name. -/
def symbols : List Text :=
  [".", "<", ">", ",", "&", "?", "[]", ['\x7b'], "extends", "implements", "permits", "super"]

namespace Token

/-- The characters of a terminal. -/
def spelling : Token → Text
  | modifier word => word
  | kind declared => declared.keyword
  | identifier name => name
  | symbol text => text

/-- The terminal may stand in front of a text. Only an identifier depends on what follows: it takes
every character that it can. -/
def Fits (token : Token) (behind : Text) : Prop :=
  match token with
  | modifier word => word ∈ declarationModifiers
  | kind _ => True
  | identifier name =>
      isIdentifier name = true ∧ ∀ character ∈ behind.head?, isIdentifierPart character = false
  | symbol text => text ∈ symbols

end Token

/-- Terminals at the start of a text, with nothing but blanks in front of each, and the text behind
the last. -/
inductive Reads : Text → List Token → Text → Prop
  | nil (text : Text) : Reads text [] text
  | cons {blanks behind rest : Text} {token : Token} {tokens : List Token}
      (blank : blanks.all isSpace = true) (fits : token.Fits behind)
      (others : Reads behind tokens rest) :
      Reads (blanks ++ token.spelling ++ behind) (token :: tokens) rest

/-- A line cut into terminals from its start to its end. -/
def Cut (line : Text) (tokens : List Token) : Prop :=
  ∃ blanks, blanks.all isSpace = true ∧ Reads line tokens blanks

/-- One or more items with a terminal between neighbours. -/
inductive Separated {Item : Type} (separator : Text) (Rule : Item → List Token → Prop) :
    List Item → List Token → Prop
  | last {item : Item} {tokens : List Token} (rule : Rule item tokens) :
      Separated separator Rule [item] tokens
  | more {item : Item} {items : List Item} {tokens others : List Token} (rule : Rule item tokens)
      (rest : Separated separator Rule items others) :
      Separated separator Rule (item :: items) (tokens ++ .symbol separator :: others)

mutual

/-- A type is one or more segments with dots between them, and array brackets. -/
inductive DerivesType : TypeReference → List Token → Prop
  | mk {segments : List TypeSegment} {tokens : List Token} (dimensions : Nat)
      (rule : Separated "." DerivesSegment segments tokens) :
      DerivesType (.mk segments dimensions) (tokens ++ List.replicate dimensions (.symbol "[]"))

/-- A segment is an identifier, with or without type arguments. -/
inductive DerivesSegment : TypeSegment → List Token → Prop
  | plain (name : Text) : DerivesSegment (.mk name []) [.identifier name]
  | generic (name : Text) {arguments : List TypeArgument} {tokens : List Token}
      (rule : Separated "," DerivesArgument arguments tokens) :
      DerivesSegment (.mk name arguments)
        (.identifier name :: .symbol "<" :: (tokens ++ [.symbol ">"]))

/-- A type argument is a type or a wildcard. -/
inductive DerivesArgument : TypeArgument → List Token → Prop
  | exactly {type : TypeReference} {tokens : List Token} (rule : DerivesType type tokens) :
      DerivesArgument (.exactly type) tokens
  | unbounded : DerivesArgument .unbounded [.symbol "?"]
  | extending {bound : TypeReference} {tokens : List Token} (rule : DerivesType bound tokens) :
      DerivesArgument (.extending bound) (.symbol "?" :: .symbol "extends" :: tokens)
  | above {bound : TypeReference} {tokens : List Token} (rule : DerivesType bound tokens) :
      DerivesArgument (.above bound) (.symbol "?" :: .symbol "super" :: tokens)

end

/-- An identifier by itself. -/
inductive DerivesIdentifier : Text → List Token → Prop
  | mk (name : Text) : DerivesIdentifier name [.identifier name]

/-- A type parameter is an identifier, with or without bounds. -/
inductive DerivesParameter : TypeParameter → List Token → Prop
  | unbounded (name : Text) : DerivesParameter ⟨name, []⟩ [.identifier name]
  | bounded (name : Text) {bounds : List TypeReference} {tokens : List Token}
      (rule : Separated "&" DerivesType bounds tokens) :
      DerivesParameter ⟨name, bounds⟩ (.identifier name :: .symbol "extends" :: tokens)

/-- The type parameters of a class: none, or a list in angle brackets. -/
inductive DerivesParameters : List TypeParameter → List Token → Prop
  | none : DerivesParameters [] []
  | some {parameters : List TypeParameter} {tokens : List Token}
      (rule : Separated "," DerivesParameter parameters tokens) :
      DerivesParameters parameters (.symbol "<" :: (tokens ++ [.symbol ">"]))

/-- A clause: nothing, or a keyword and a list of types. -/
inductive DerivesClause (keyword : Text) : List TypeReference → List Token → Prop
  | none : DerivesClause keyword [] []
  | some {types : List TypeReference} {tokens : List Token}
      (rule : Separated "," DerivesType types tokens) :
      DerivesClause keyword types (.symbol keyword :: tokens)

/-- The opening brace at the end of a declaration, if there is one. -/
def braceTokens (brace : Bool) : List Token := if brace then [.symbol ['\x7b']] else []

/-- The rule of a whole line, part by part. -/
inductive Derives (declaration : Declaration) (brace : Bool) : List Token → Prop
  | mk {pathTokens parameterTokens extendsTokens implementsTokens permitsTokens : List Token}
      (path : Separated "." DerivesIdentifier declaration.path pathTokens)
      (typeParameters : DerivesParameters declaration.typeParameters parameterTokens)
      (extended : DerivesClause "extends" declaration.extended extendsTokens)
      (implemented : DerivesClause "implements" declaration.implemented implementsTokens)
      (permitted : DerivesClause "permits" declaration.permitted permitsTokens) :
      Derives declaration brace
        (declaration.writtenModifiers.map .modifier ++ .kind declaration.kind ::
          (pathTokens ++ (parameterTokens ++ (extendsTokens ++ (implementsTokens ++
            (permitsTokens ++ braceTokens brace))))))

end JarAtlas.Declaration
