import JarAtlas.Proofs.Declaration.Denotation
import JarAtlas.Proofs.Listing.Finishing
import JarAtlas.Proofs.Listing.Heading
import JarAtlas.Proofs.Member.Signature

/-!
# Reported modifiers

Whatever a listing holds, the modifiers that are reported of the class, of its fields and of its
methods are pairwise distinct words of the vocabulary of each. A class has the modifiers of its last
accepted declaration, and every member comes from a line that lists it, so it is enough that the
three readers of modifiers report nothing else.
-/

namespace JarAtlas

/-- The modifiers of a class and of its members are drawn from their vocabularies. -/
structure ClassSummary.ModifiersDrawn (summary : ClassSummary) : Prop where
  heading : Text.DrawnFrom classModifiers summary.modifiers
  fields : ∀ field ∈ summary.fields, Text.DrawnFrom Member.fieldModifiers field.modifiers
  methods : ∀ method ∈ summary.methods, Text.DrawnFrom Member.methodModifiers method.modifiers

namespace Listing

theorem drawnFrom_of_namedAt {line : Text} {method : MethodSummary} (named : NamedAt line method) :
    Text.DrawnFrom Member.methodModifiers method.modifiers := by
  rcases named with ⟨signature, parsed, shown, -⟩
  have drawn := Member.drawnFrom_of_parseMethod parsed
  rw [shown]
  exact drawn

namespace Reading

/-- Every field that is known comes from a line. -/
def FieldsListed (reading : Reading) : Prop :=
  ∀ field ∈ reading.settled.fields, ∃ line, Member.parseField line = some field

theorem FieldsListed.of_lineEffect {reading after : Reading} {line : Text}
    (listed : reading.FieldsListed) (effect : LineEffect line reading after) :
    after.FieldsListed := by
  cases effect with
  | declaration opened =>
    rcases reading.declare_eq line with ⟨settled, declared, fields, -⟩
    rw [declared]
    intro field member
    exact listed field (fields ▸ member)
  | field parsed =>
    intro field member
    rcases List.mem_append.mp member with known | added
    · exact listed field known
    · rcases List.mem_singleton.mp added with rfl
      exact ⟨line, parsed⟩
  | _ => exact listed

theorem FieldsListed.of_effect {reading after : Reading} {line : Text}
    (listed : reading.FieldsListed) (effect : Effect line reading after) : after.FieldsListed := by
  cases effect with
  | outside effect => exact listed.of_lineEffect effect
  | foreign inTable effect =>
    have entered : ({ reading with phase := .inBody } : Reading).FieldsListed := listed
    exact entered.of_lineEffect effect
  | _ => exact listed

theorem FieldsListed.of_run {reading : Reading} {lines : List Text} {summary : ClassSummary}
    (listed : reading.FieldsListed) (done : reading.run lines = .ok summary) :
    ∀ field ∈ summary.fields, ∃ line, Member.parseField line = some field := by
  induction lines generalizing reading with
  | nil =>
    cases done
    exact listed
  | cons line lines ih =>
    rw [run_cons] at done
    cases step : reading.feed line (nextContent lines) with
    | next after =>
      rw [step] at done
      exact ih (listed.of_effect (effect_of_feed (congrArg Step.reading? step))) done
    | closed after =>
      rw [step] at done
      cases done
      have ended : after.FieldsListed :=
        listed.of_effect (effect_of_feed (congrArg Step.reading? step))
      exact ended
    | oversized digits =>
      rw [step] at done
      contradiction

end Reading

theorem drawnFrom_of_heading {declarations : List Declaration} {heading : Heading}
    (last : heading = declarations.getLast?.elim .undeclared Declaration.heading) :
    Text.DrawnFrom classModifiers heading.modifiers := by
  cases found : declarations.getLast? with
  | none =>
    rw [last, found]
    exact Text.drawnFrom_nil classModifiers
  | some declaration =>
    rw [last, found]
    exact Declaration.drawnFrom_modifiers declaration

theorem modifiersDrawn_of_parse {text : Option Text} {className : Option Text}
    {summary : ClassSummary} (parsed : parse text className = .ok summary) :
    summary.ModifiersDrawn := by
  cases text with
  | none => contradiction
  | some text =>
    rcases parse_eq_ok_iff.mp parsed with ⟨-, done, -⟩
    refine ⟨drawnFrom_of_heading (heading_of_run done), ?_, ?_⟩
    · have listed : (startFor className).FieldsListed := fun _ => List.not_mem_nil.elim
      intro field member
      rcases listed.of_run done field member with ⟨line, fromLine⟩
      exact Member.drawnFrom_of_parseField fromLine
    · rcases Reading.exists_signatureLines_of_run (Reading.coherent_start _) done with
        ⟨lines, -, named⟩
      exact ((List.forall₂_and_left _ _).mp
        (named.flip.imp fun _ _ listed => ⟨drawnFrom_of_namedAt listed, listed⟩)).1

/-- The vocabularies of member lines, each with the words that are passed over among them. -/
def memberVocabularies : List (List Text × List Text) :=
  [(Member.methodModifiers, Member.passedMethodWords), (Member.fieldModifiers, [])]

theorem isLongestRun_of_mem_memberVocabularies {vocabulary passed : List Text}
    (member : (vocabulary, passed) ∈ memberVocabularies) (line : Text) :
    Member.IsLongestRun (vocabulary ++ passed) line
      (Member.leadingWords (vocabulary ++ passed) line).1
      (Member.leadingWords (vocabulary ++ passed) line).2 := by
  apply Member.isLongestRun_leadingWords
  rcases List.mem_cons.mp member with same | others
  · cases same
    exact Member.not_mem_of_mem_methodWords
  · cases List.mem_singleton.mp others
    exact Member.not_mem_of_mem_fieldWords

/-- Whatever the text, the modifiers of the class and of its members are pairwise distinct words of
their vocabularies. Whatever the line, the longest run of known words is cut off its front, and the
reported ones are the vocabulary's words of the run in the order of their first appearance. -/
theorem modifiers_of_parse :
    (∀ (text className : Option Text) (summary : ClassSummary),
      parse text className = .ok summary → summary.ModifiersDrawn) ∧
    ∀ vocabulary passed, (vocabulary, passed) ∈ memberVocabularies → ∀ line : Text,
      ∃ words rest, Member.IsLongestRun (vocabulary ++ passed) line words rest ∧
        Member.cutModifiers vocabulary passed line =
          ((words.filter vocabulary.contains).eraseDups, rest) := by
  refine ⟨fun _ _ _ => modifiersDrawn_of_parse, ?_⟩
  intro vocabulary passed member line
  exact ⟨_, _, isLongestRun_of_mem_memberVocabularies member line,
    Member.cutModifiers_eq vocabulary passed line⟩

/-- A listing in which every modifier is repeated. -/
def repeatedText : Text :=
  Text.join "\n"
    ["public final public sealed class a.Pair", ['\x7b'],
      "  private volatile private int size;", "    descriptor: I",
      "  static default public static void swap(int);", "    descriptor: (I)V", ['\x7d']]

theorem modifiers_of_repeated :
    (∃ summary, parse (some repeatedText) none = .ok summary ∧
      summary.modifiers = ["public", "final"] ∧
      summary.fields.map FieldSummary.modifiers = ([["private", "volatile"]] : List (List Text)) ∧
      summary.methods.map MethodSummary.modifiers = ([["static", "public"]] : List (List Text)) ∧
      summary.ModifiersDrawn) ∧
    ∃ words rest,
      Member.IsLongestRun (Member.methodModifiers ++ Member.passedMethodWords)
        "static default public static staticfp x" words rest ∧
      Member.cutModifiers Member.methodModifiers Member.passedMethodWords
        "static default public static staticfp x" =
          ((["static", "public"] : List Text), ("staticfp x" : Text)) := by
  have parsed : parse (some repeatedText) none = .ok
      { kind := some .ordinary, packageName := "a", simpleName := "Pair"
        modifiers := ["public", "final"], superclass := none, interfaces := []
        fields := [{ name := "size", type := "int", modifiers := ["private", "volatile"] }]
        methods :=
          [{ name := "swap", returnType := "void", modifiers := ["static", "public"]
             parameters := ["int param1"] }] } := by
    decide +kernel
  refine ⟨⟨_, parsed, rfl, rfl, rfl, modifiers_of_parse.1 _ _ _ parsed⟩, ?_⟩
  rcases modifiers_of_parse.2 Member.methodModifiers Member.passedMethodWords List.mem_cons_self
    "static default public static staticfp x" with ⟨words, rest, run, -⟩
  exact ⟨words, rest, run, by decide +kernel⟩

end Listing

end JarAtlas
