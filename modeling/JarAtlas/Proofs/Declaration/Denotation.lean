import JarAtlas.Proofs.Declaration.Grammar
import JarAtlas.Proofs.Text.Words
import Mathlib.Tactic.Common

/-!
# What declarations denote

The texts of a tree against the terminals that it derives. A text of a header is the terminals of
its part one after the other, with fixed spacing around commas, bounds and keywords; the erased name
of a type is what is left of them outside angle brackets. The induction over derivations that the
recursive part of the grammar calls for is stated once.
-/

namespace JarAtlas.Declaration

namespace Token

/-- A terminal as the texts of a header show it. -/
def shown : Token → Text
  | symbol spelling =>
      if spelling = ("," : Text) then ", "
      else if spelling ∈ (["&", "extends", "super"] : List Text) then ' ' :: spelling ++ [' ']
      else spelling
  | token => token.spelling

theorem shown_identifier (name : Text) : (identifier name).shown = name := rfl

theorem shown_comma : (symbol ",").shown = ", " := by decide

theorem shown_dot : (symbol ".").shown = "." := by decide

theorem shown_opening : (symbol "<").shown = ['<'] := by decide

theorem shown_closing : (symbol ">").shown = ['>'] := by decide

theorem shown_question : (symbol "?").shown = ['?'] := by decide

theorem shown_brackets : (symbol "[]").shown = "[]" := by decide

theorem shown_extends : (symbol "extends").shown = " extends " := by decide

theorem shown_super : (symbol "super").shown = " super " := by decide

theorem shown_ampersand : (symbol "&").shown = " & " := by decide

end Token

/-- Terminals as a header shows them. -/
def shownText (tokens : List Token) : Text := tokens.flatMap Token.shown

/-- The terminals outside angle brackets, from a place inside `depth` of them. -/
def outermost : (depth : Nat) → List Token → List Token
  | _, [] => []
  | depth, token :: tokens =>
      if token = .symbol "<" then outermost (depth + 1) tokens
      else if token = .symbol ">" then outermost (depth - 1) tokens
      else if depth = 0 then token :: outermost depth tokens
      else outermost depth tokens

@[simp]
theorem shownText_append (left right : List Token) :
    shownText (left ++ right) = shownText left ++ shownText right := by
  simp [shownText]

@[simp]
theorem shownText_cons (token : Token) (tokens : List Token) :
    shownText (token :: tokens) = token.shown ++ shownText tokens := by
  simp [shownText]

@[simp]
theorem shownText_nil : shownText [] = [] := rfl

theorem Separated.mono {Item : Type} {separator : Text} {Rule Other : Item → List Token → Prop}
    {items : List Item} {tokens : List Token} (rules : Separated separator Rule items tokens)
    (weaker : ∀ item tokens, Rule item tokens → Other item tokens) :
    Separated separator Other items tokens := by
  induction rules with
  | last rule => exact .last (weaker _ _ rule)
  | more rule rules ih => exact .more (weaker _ _ rule) ih

/-- Induction over the derivations of types. A fact about types, segments and arguments holds of
every derived type if each rule hands it on from the parts of its list to the whole. -/
theorem DerivesType.induction (OfType : TypeReference → List Token → Prop)
    (OfSegment : TypeSegment → List Token → Prop) (OfArgument : TypeArgument → List Token → Prop)
    (type : ∀ {segments tokens} (count : Nat), Separated "." OfSegment segments tokens →
      OfType (.mk segments count) (tokens ++ List.replicate count (.symbol "[]")))
    (plain : ∀ name, OfSegment (.mk name []) [.identifier name])
    (generic : ∀ name {arguments tokens}, Separated "," OfArgument arguments tokens →
      OfSegment (.mk name arguments) (.identifier name :: .symbol "<" :: (tokens ++ [.symbol ">"])))
    (exactly : ∀ {type tokens}, OfType type tokens → OfArgument (.exactly type) tokens)
    (unbounded : OfArgument .unbounded [.symbol "?"])
    (extending : ∀ {bound tokens}, OfType bound tokens →
      OfArgument (.extending bound) (.symbol "?" :: .symbol "extends" :: tokens))
    (above : ∀ {bound tokens}, OfType bound tokens →
      OfArgument (.above bound) (.symbol "?" :: .symbol "super" :: tokens))
    {reference : TypeReference} {tokens : List Token} (rule : DerivesType reference tokens) :
    OfType reference tokens :=
  @DerivesType.rec (fun type tokens _ => OfType type tokens)
    (fun segment tokens _ => OfSegment segment tokens)
    (fun argument tokens _ => OfArgument argument tokens)
    (fun segments tokens _ => Separated "." OfSegment segments tokens)
    (fun arguments tokens _ => Separated "," OfArgument arguments tokens)
    (fun count _ segments => type count segments) plain
    (fun name _ _ _ arguments => generic name arguments)
    (fun _ => exactly) unbounded (fun _ => extending) (fun _ => above)
    (fun _ segment => .last segment) (fun _ _ segment segments => .more segment segments)
    (fun _ argument => .last argument) (fun _ _ argument arguments => .more argument arguments)
    _ _ rule

theorem Separated.ne_nil {Item : Type} {separator : Text} {Rule : Item → List Token → Prop}
    {items : List Item} {tokens : List Token} (rules : Separated separator Rule items tokens) :
    items ≠ [] := by
  cases rules <;> simp

/-- A list is shown as its items are, with its separator between them. -/
theorem Separated.join_eq_shownText {Item : Type} {separator : Text}
    {Rule : Item → List Token → Prop} {itemText : Item → Text} {items : List Item}
    {tokens : List Token} (rules : Separated separator Rule items tokens)
    (shown : ∀ item tokens, Rule item tokens → itemText item = shownText tokens) :
    Text.join (Token.symbol separator).shown (items.map itemText) = shownText tokens := by
  induction rules with
  | last rule => exact shown _ _ rule
  | @more item items tokens others rule rules ih =>
    cases items with
    | nil => exact absurd rfl rules.ne_nil
    | cons next items =>
      rw [List.map_cons] at ih
      rw [List.map_cons, List.map_cons, Text.join, ih, shown _ _ rule, shownText_append,
        shownText_cons, List.append_assoc]
      simp

theorem segmentsText_eq_join (segments : List TypeSegment) :
    TypeReference.segmentsText segments =
      Text.join "." (segments.map TypeReference.segmentText) := by
  induction segments with
  | nil => rfl
  | cons segment segments ih =>
    cases segments with
    | nil => rfl
    | cons next segments =>
      rw [TypeReference.segmentsText, ih]
      · simp [Text.join]
      · simp

theorem argumentsText_eq_join (arguments : List TypeArgument) :
    TypeReference.argumentsText arguments =
      Text.join ", " (arguments.map TypeReference.argumentText) := by
  induction arguments with
  | nil => rfl
  | cons argument arguments ih =>
    cases arguments with
    | nil => rfl
    | cons next arguments =>
      rw [TypeReference.argumentsText, ih]
      · simp [Text.join]
      · simp

theorem shownText_replicate (count : Nat) :
    shownText (List.replicate count (.symbol "[]")) =
      (List.replicate count ("[]" : Text)).flatten := by
  induction count with
  | zero => rfl
  | succ count ih =>
    rw [List.replicate_succ, shownText_cons, ih, Token.shown_brackets]
    rfl

/-- The text of a type is the terminals that it derives. -/
theorem text_eq_shownText {reference : TypeReference} {tokens : List Token}
    (rule : DerivesType reference tokens) : reference.text = shownText tokens := by
  refine rule.induction (fun reference tokens => reference.text = shownText tokens)
    (fun segment tokens => TypeReference.segmentText segment = shownText tokens)
    (fun argument tokens => TypeReference.argumentText argument = shownText tokens)
    ?type ?plain ?generic ?exactly ?unbounded ?extending ?above
  case type =>
    intro segments tokens count rules
    have joined := rules.join_eq_shownText fun _ _ same => same
    rw [Token.shown_dot] at joined
    rw [TypeReference.text, segmentsText_eq_join, shownText_append, shownText_replicate, joined]
  case plain =>
    intro name
    simp [TypeReference.segmentText, Token.shown_identifier]
  case generic =>
    intro name arguments tokens rules
    have joined := rules.join_eq_shownText fun _ _ same => same
    cases arguments with
    | nil => exact absurd rfl rules.ne_nil
    | cons argument arguments =>
      rw [Token.shown_comma] at joined
      rw [TypeReference.segmentText, argumentsText_eq_join, joined]
      simp only [shownText_cons, shownText_append, shownText_nil, Token.shown_identifier,
        Token.shown_opening, Token.shown_closing, List.append_assoc, List.append_nil,
        List.cons_append, List.nil_append]
  case exactly =>
    intro type tokens same
    rw [TypeReference.argumentText.eq_def]
    exact same
  case unbounded =>
    rw [TypeReference.argumentText.eq_def, shownText_cons, Token.shown_question]
    rfl
  case extending =>
    intro bound tokens same
    rw [TypeReference.argumentText.eq_def, shownText_cons, shownText_cons, Token.shown_question,
      Token.shown_extends, ← same]
    rfl
  case above =>
    intro bound tokens same
    rw [TypeReference.argumentText.eq_def, shownText_cons, shownText_cons, Token.shown_question,
      Token.shown_super, ← same]
    rfl

/-- Terminals whose brackets are balanced inside brackets are left out there. -/
def Inner (tokens : List Token) : Prop :=
  ∀ depth rest, outermost (depth + 1) (tokens ++ rest) = outermost (depth + 1) rest

theorem inner_of_not_bracket {token : Token} (opens : token ≠ .symbol "<")
    (closes : token ≠ .symbol ">") : Inner [token] := by
  intro depth rest
  rw [List.singleton_append, outermost, if_neg opens, if_neg closes, if_neg (by omega)]

theorem Inner.append {left right : List Token} (first : Inner left) (second : Inner right) :
    Inner (left ++ right) := by
  intro depth rest
  rw [List.append_assoc, first, second]

theorem Inner.cons {token : Token} {tokens : List Token} (opens : token ≠ .symbol "<")
    (closes : token ≠ .symbol ">") (inner : Inner tokens) : Inner (token :: tokens) :=
  (inner_of_not_bracket opens closes).append inner

theorem Inner.bracketed {tokens : List Token} (inner : Inner tokens) :
    Inner (.symbol "<" :: (tokens ++ [.symbol ">"])) := by
  intro depth rest
  rw [List.cons_append, List.append_assoc, outermost, if_pos rfl, inner]
  simp [outermost]

theorem inner_replicate (count : Nat) : Inner (List.replicate count (.symbol "[]")) := by
  induction count with
  | zero =>
    intro depth rest
    rfl
  | succ count ih => exact Inner.cons (by decide) (by decide) ih

theorem Separated.inner {Item : Type} {separator : Text} {Rule : Item → List Token → Prop}
    {items : List Item} {tokens : List Token} (rules : Separated separator Rule items tokens)
    (opens : separator ≠ ("<" : Text)) (closes : separator ≠ (">" : Text))
    (inner : ∀ item tokens, Rule item tokens → Inner tokens) : Inner tokens := by
  induction rules with
  | last rule => exact inner _ _ rule
  | more rule rules ih =>
    exact (inner _ _ rule).append (Inner.cons (by simpa using opens) (by simpa using closes) ih)

/-- The terminals of a segment outside brackets: its name. -/
def NamesSegment (segment : TypeSegment) (tokens : List Token) : Prop :=
  Inner tokens ∧ ∀ rest, outermost 0 (tokens ++ rest) =
    .identifier (TypeReference.segmentName segment) :: outermost 0 rest

theorem Separated.shownText_outermost {segments : List TypeSegment} {tokens : List Token}
    (rules : Separated "." NamesSegment segments tokens) (rest : List Token) :
    shownText (outermost 0 (tokens ++ rest)) =
      Text.join "." (segments.map TypeReference.segmentName) ++ shownText (outermost 0 rest) := by
  induction rules with
  | last rule =>
    rw [rule.2, shownText_cons, Token.shown_identifier]
    rfl
  | @more segment segments tokens others rule rules ih =>
    cases segments with
    | nil => exact absurd rfl rules.ne_nil
    | cons next segments =>
      rw [List.append_assoc, rule.2, shownText_cons, List.cons_append]
      have kept : outermost 0 (.symbol "." :: (others ++ rest)) =
          .symbol "." :: outermost 0 (others ++ rest) := by
        rw [outermost, if_neg (by decide), if_neg (by decide), if_pos rfl]
      rw [kept, shownText_cons, ih, Token.shown_identifier, Token.shown_dot]
      simp [Text.join]

theorem shownText_outermost_replicate (count : Nat) :
    shownText (outermost 0 (List.replicate count (.symbol "[]"))) =
      (List.replicate count ("[]" : Text)).flatten := by
  induction count with
  | zero => rfl
  | succ count ih =>
    rw [List.replicate_succ, outermost, if_neg (by decide), if_neg (by decide), if_pos rfl,
      shownText_cons, ih, Token.shown_brackets]
    rfl

/-- The erased name of a type is its terminals outside angle brackets. -/
theorem erased_eq_shownText {reference : TypeReference} {tokens : List Token}
    (rule : DerivesType reference tokens) :
    reference.erased = shownText (outermost 0 tokens) := by
  have both : Inner tokens ∧ reference.erased = shownText (outermost 0 tokens) := by
    refine rule.induction
      (fun reference tokens => Inner tokens ∧ reference.erased = shownText (outermost 0 tokens))
      NamesSegment (fun _ tokens => Inner tokens) ?type ?plain ?generic ?exactly ?unbounded
      ?extending ?above
    case type =>
      intro segments tokens count rules
      have inner := rules.inner (by decide) (by decide) fun _ _ named => named.1
      refine ⟨inner.append (inner_replicate count), ?_⟩
      rw [rules.shownText_outermost, shownText_outermost_replicate]
      rfl
    case plain =>
      intro name
      refine ⟨inner_of_not_bracket (by simp) (by simp), ?_⟩
      intro rest
      simp [outermost, TypeReference.segmentName]
    case generic =>
      intro name arguments tokens rules
      have inner := rules.inner (by decide) (by decide) fun _ _ inside => inside
      refine ⟨Inner.cons (by simp) (by simp) inner.bracketed, ?_⟩
      intro rest
      have skipped := inner 0 (.symbol ">" :: rest)
      rw [List.cons_append, List.cons_append, List.append_assoc, outermost, if_neg (by simp),
        if_neg (by simp), if_pos rfl, outermost, if_pos rfl]
      simp only [List.cons_append, List.nil_append, Nat.zero_add] at skipped ⊢
      rw [skipped, outermost, if_neg (by decide), if_pos rfl]
      rfl
    case exactly =>
      intro type tokens named
      exact named.1
    case unbounded => exact inner_of_not_bracket (by decide) (by decide)
    case extending =>
      intro bound tokens named
      exact Inner.cons (by decide) (by decide) (Inner.cons (by decide) (by decide) named.1)
    case above =>
      intro bound tokens named
      exact Inner.cons (by decide) (by decide) (Inner.cons (by decide) (by decide) named.1)
  exact both.2

theorem parameterText_eq_shownText {parameter : TypeParameter} {tokens : List Token}
    (rule : DerivesParameter parameter tokens) : parameter.text = shownText tokens := by
  cases rule with
  | unbounded name =>
    rw [shownText_cons, Token.shown_identifier]
    simp [TypeParameter.text]
  | @bounded name bounds tokens rule =>
    have joined := rule.join_eq_shownText fun _ _ derived => text_eq_shownText derived
    rw [Token.shown_ampersand] at joined
    have some : bounds.isEmpty = false := by
      simpa using rule.ne_nil
    rw [TypeParameter.text, if_neg (by simp [some]), shownText_cons, shownText_cons,
      Token.shown_identifier, Token.shown_extends, ← joined, List.append_assoc]

theorem typeParametersText_eq_shownText {declaration : Declaration} {tokens : List Token}
    (rule : DerivesParameters declaration.typeParameters tokens) :
    declaration.typeParametersText = shownText tokens := by
  rw [typeParametersText]
  generalize declaration.typeParameters = parameters at rule
  cases rule with
  | none => rfl
  | some rule =>
    have joined := rule.join_eq_shownText fun _ _ derived => parameterText_eq_shownText derived
    rw [Token.shown_comma] at joined
    have some : parameters.isEmpty = false := by
      simpa using rule.ne_nil
    rw [if_neg (by simp [some]), shownText_cons, shownText_append, shownText_cons,
      Token.shown_opening, Token.shown_closing, ← joined]
    rfl

theorem qualifiedName_eq_shownText {declaration : Declaration} {tokens : List Token}
    (rule : Separated "." DerivesIdentifier declaration.path tokens) :
    declaration.qualifiedName = shownText tokens := by
  have joined := rule.join_eq_shownText fun name tokens (derived : DerivesIdentifier name tokens) =>
    show id name = shownText tokens by
      cases derived
      simp [Token.shown_identifier]
  rw [Token.shown_dot, List.map_id] at joined
  exact joined

/-- The modifiers are the words of the class vocabulary, each at its first appearance. -/
theorem modifiers_eq_eraseDups (declaration : Declaration) :
    declaration.modifiers =
      (declaration.writtenModifiers.filter classModifiers.contains).eraseDups := by
  rw [← Text.foldl_eq_eraseDups, List.foldl_filter, modifiers]
  congr 1
  funext kept word
  cases kept.contains word <;> simp

theorem drawnFrom_modifiers (declaration : Declaration) :
    Text.DrawnFrom classModifiers declaration.modifiers := by
  rw [modifiers_eq_eraseDups]
  exact Text.drawnFrom_eraseDups classModifiers _

/-- A list has one derivation if each of its items has. -/
theorem Separated.tokens_eq {Item : Type} {separator : Text} {Rule : Item → List Token → Prop}
    {items : List Item} {tokens others : List Token}
    (rules : Separated separator (fun item tokens => ∀ others, Rule item others → tokens = others)
      items tokens)
    (second : Separated separator Rule items others) : tokens = others := by
  induction rules generalizing others with
  | last rule =>
    cases second with
    | last other => exact rule _ other
    | more other none => exact absurd rfl none.ne_nil
  | more rule rules ih =>
    cases second with
    | last other => exact absurd rfl rules.ne_nil
    | more other remaining => rw [rule _ other, ih remaining]

/-- A type has one derivation. -/
theorem DerivesType.tokens_eq {reference : TypeReference} {tokens others : List Token}
    (rule : DerivesType reference tokens) (second : DerivesType reference others) :
    tokens = others := by
  refine rule.induction (fun reference tokens => ∀ others, DerivesType reference others →
      tokens = others)
    (fun segment tokens => ∀ others, DerivesSegment segment others → tokens = others)
    (fun argument tokens => ∀ others, DerivesArgument argument others → tokens = others)
    ?type ?plain ?generic ?exactly ?unbounded ?extending ?above others second
  case type =>
    intro segments tokens count rules others second
    cases second with
    | mk count other => rw [rules.tokens_eq other]
  case plain =>
    intro name others second
    cases second with
    | plain => rfl
    | generic name none => exact absurd rfl none.ne_nil
  case generic =>
    intro name arguments tokens rules others second
    cases second with
    | plain => exact absurd rfl rules.ne_nil
    | generic name other => rw [rules.tokens_eq other]
  case exactly =>
    intro type tokens same others second
    cases second with
    | exactly other => exact same _ other
  case unbounded =>
    intro others second
    cases second
    rfl
  case extending =>
    intro bound tokens same others second
    cases second with
    | extending other => rw [same _ other]
  case above =>
    intro bound tokens same others second
    cases second with
    | above other => rw [same _ other]

theorem tokens_eq_of_derivesTypes {separator : Text} {types : List TypeReference}
    {tokens others : List Token} (first : Separated separator DerivesType types tokens)
    (second : Separated separator DerivesType types others) : tokens = others :=
  (first.mono fun _ _ rule _ other => rule.tokens_eq other).tokens_eq second

theorem DerivesClause.tokens_eq {keyword : Text} {types : List TypeReference}
    {tokens others : List Token} (first : DerivesClause keyword types tokens)
    (second : DerivesClause keyword types others) : tokens = others := by
  cases first with
  | none =>
    cases second with
    | none => rfl
    | some none => exact absurd rfl none.ne_nil
  | some rule =>
    cases second with
    | none => exact absurd rfl rule.ne_nil
    | some other => rw [tokens_eq_of_derivesTypes rule other]

theorem DerivesParameter.tokens_eq {parameter : TypeParameter} {tokens others : List Token}
    (first : DerivesParameter parameter tokens) (second : DerivesParameter parameter others) :
    tokens = others := by
  cases first with
  | unbounded name =>
    cases second with
    | unbounded => rfl
    | bounded name none => exact absurd rfl none.ne_nil
  | bounded name rule =>
    cases second with
    | unbounded => exact absurd rfl rule.ne_nil
    | bounded name other => rw [tokens_eq_of_derivesTypes rule other]

theorem DerivesParameters.tokens_eq {parameters : List TypeParameter} {tokens others : List Token}
    (first : DerivesParameters parameters tokens) (second : DerivesParameters parameters others) :
    tokens = others := by
  cases first with
  | none =>
    cases second with
    | none => rfl
    | some none => exact absurd rfl none.ne_nil
  | some rule =>
    cases second with
    | none => exact absurd rfl rule.ne_nil
    | some other =>
      have each : Separated "," (fun parameter tokens => ∀ others,
          DerivesParameter parameter others → tokens = others) parameters _ :=
        rule.mono fun _ _ rule _ other => rule.tokens_eq other
      rw [each.tokens_eq other]

theorem tokens_eq_of_derivesPath {path : List Text} {tokens others : List Token}
    (first : Separated "." DerivesIdentifier path tokens)
    (second : Separated "." DerivesIdentifier path others) : tokens = others := by
  have each := first.mono fun name tokens rule others (other : DerivesIdentifier name others) =>
    show tokens = others by
      cases rule
      cases other
      rfl
  exact each.tokens_eq second

/-- Two derivations of a declaration differ at most in the brace at the end. -/
theorem Derives.exists_common {declaration : Declaration} {brace other : Bool}
    {tokens others : List Token} (first : Derives declaration brace tokens)
    (second : Derives declaration other others) :
    ∃ common, tokens = common ++ braceTokens brace ∧ others = common ++ braceTokens other := by
  cases first with
  | @mk pathTokens parameterTokens extendsTokens implementsTokens permitsTokens path typeParameters
      extended implemented permitted =>
    rcases second with ⟨otherPath, otherParameters, otherExtended, otherImplemented, otherPermitted⟩
    rw [tokens_eq_of_derivesPath otherPath path, otherParameters.tokens_eq typeParameters,
      otherExtended.tokens_eq extended, otherImplemented.tokens_eq implemented,
      otherPermitted.tokens_eq permitted]
    refine ⟨declaration.writtenModifiers.map .modifier ++ .kind declaration.kind ::
      (pathTokens ++ (parameterTokens ++ (extendsTokens ++ (implementsTokens ++ permitsTokens)))),
      ?_, ?_⟩
    · simp only [List.append_assoc, List.cons_append]
    · simp only [List.append_assoc, List.cons_append]

end JarAtlas.Declaration
