import JarAtlas.Proofs.Listing.PrintedHeader

/-!
# Listings read back

A class in a package, printed with everything that a listing is free in: lines without effect in
front of the header, behind it, and in the members. Reading the listing gives exactly the class,
with its members in their order, whatever the caller takes the class for.
-/

namespace JarAtlas.Listing

open Text

namespace PrintedMember

/-- The field that a member is. -/
def field? : PrintedMember → Option FieldSummary
  | field printed => some printed.summary
  | method _ => none

/-- The method that a member is. -/
def method? : PrintedMember → Option MethodSummary
  | field _ => none
  | method printed => some printed.summary

/-- Members are added with the fields and the methods each in their order. -/
theorem foldl_addTo (members : List PrintedMember) (known : ClassSummary) :
    members.foldl addTo known =
      { known with
        fields := known.fields ++ members.filterMap field?
        methods := known.methods ++ members.filterMap method? } := by
  induction members generalizing known with
  | nil => simp
  | cons member members ih =>
    rw [List.foldl_cons, ih]
    cases member with
    | field printed => simp [addTo, List.filterMap_cons, field?, method?]
    | method printed => simp [addTo, List.filterMap_cons, field?, method?]

end PrintedMember

/-- A class as it is printed: inert lines, its header, inert lines, and its members between braces.
What stands behind the closing brace does not count. -/
structure PrintedListing where
  front : List Text
  header : PrintedHeader
  between : List Text
  members : List PrintedMember
  behind : List Text
  inert_front : ∀ line ∈ front, isInert line = true
  inert_between : ∀ line ∈ between, isInert line = true

namespace PrintedListing

/-- The lines of a listing. -/
def lines (listing : PrintedListing) : List Text :=
  listing.front ++ listing.header.line :: (listing.between ++ ['\x7b'] ::
    (listing.members.flatMap PrintedMember.lines ++ ['\x7d'] :: listing.behind))

/-- The class that is printed. -/
def summary (listing : PrintedListing) : ClassSummary :=
  { listing.header.summary with
    fields := listing.members.filterMap PrintedMember.field?
    methods := listing.members.filterMap PrintedMember.method? }

/-- A run over the lines of a listing gives the class that is printed. -/
theorem run_listing (listing : PrintedListing) (className : Option Text)
    (trimmed : trim listing.header.line = listing.header.line) :
    (startFor className).run listing.lines = .ok listing.summary := by
  have outside : (startFor className).phase ≠ .inTable := by simp [startFor, Reading.start]
  have bare : isDescribed (['\x7d'] :: listing.behind) = false := rfl
  rcases listing.header.run_header className trimmed listing.inert_between
    with ⟨opened, header, betweenHeader⟩
  rcases PrintedMember.run_members listing.members betweenHeader bare
    with ⟨after, members, betweenMembers⟩
  rw [lines, Reading.run_inert outside listing.inert_front (listing.header.isDescribed_line _),
    header, members, Reading.run_closing betweenMembers.outside betweenMembers.opened
      betweenMembers.unswitched, betweenMembers.settled, PrintedMember.foldl_addTo]
  rfl

end PrintedListing

/-- Reading the listing that is printed for a class gives exactly the class: nothing of it is lost,
doubled or made up. -/
theorem parse_printed (listing : PrintedListing) {text : Text}
    (printed : contentLines text = listing.lines) (className : Option Text) :
    parse (some text) className = .ok listing.summary := by
  have isLine : listing.header.line ∈ contentLines text := by
    simp [printed, PrintedListing.lines]
  have trimmed : trim listing.header.line = listing.header.line := by
    rcases List.mem_map.mp isLine with ⟨written, -, same⟩
    rw [← same, trim_trim]
  have named : listing.summary.simpleName ≠ [] :=
    Declaration.ne_nil_of_isIdentifier
      (listing.header.names listing.header.simpleName (by simp))
  rw [parse_eq_ok_iff]
  refine ⟨isBlankText_eq_false isLine listing.header.line_ne_nil, ?_, named⟩
  rw [printed, listing.run_listing className trimmed]

/-- A class with type arguments in its header. -/
def routerHeader : PrintedHeader where
  modifiers := ["public", "final"]
  kind := .ordinary
  package := ["com", "example"]
  simpleName := "Router"
  typeParameters := []
  superclass := some (.mk [.mk "Base" [.unbounded, .exactly (.mk [.mk "int" []] 1)]] 0)
  interfaces := []
  permitted := []
  known := by decide
  distinct := by decide
  packaged := by decide
  names := by decide
  parameters := by simp
  types := by
    intro type member
    rw [Option.toList_some, List.append_nil, List.append_nil, List.mem_singleton] at member
    subst member
    refine ⟨_, .mk 0 (.last (.generic "Base" (.more .unbounded
      (.last (.exactly (.mk 1 (.last (.plain "int")))))))), ?_⟩
    intro name isName
    simp only [List.cons_append, List.nil_append, List.replicate, List.append_nil, List.mem_cons,
      Declaration.Token.identifier.injEq, reduceCtorEq, false_or, or_false,
      List.not_mem_nil] at isName
    rcases isName with rfl | rfl <;> decide
  interface_root := by decide

def hitsField : PrintedField where
  modifiers := ["private"]
  type := "int"
  name := "hits"
  descriptor := "descriptor: I"
  attributes := ["flags: (0x0002) ACC_PRIVATE", []]
  known := by decide
  distinct := by decide
  isType := ⟨by decide, by decide, by decide, by decide⟩
  isFieldType := ⟨⟨'i', rfl, by decide⟩, by decide, by decide⟩
  isName := by decide
  describes := by decide
  inert := by decide +kernel

/-- Code with a switch and a variable table that names one of two parameters. -/
def pickCode : PrintedCode where
  stack := 1
  locals := 4
  arguments := 3
  instructions := "0: iload_3" :: ((routerSite []).block ++ [("20: ireturn" : Text)])
  table := some
    { heads := "Start  Length  Slot  Name   Signature"
      rows :=
        [{ start := 0, length := 23, slot := 1, name := "key", type := "J", startGap := "      "
           lengthGap := "     ", slotGap := "   ", nameGap := "   ", short := by decide
           named := by decide, whole := by decide, typed := ⟨'J', rfl, by decide⟩, gaps := by decide }]
      ending := "StackMapTable: number_of_entries = 1"
      headed := by decide
      inert := by decide +kernel
      unheaded := by decide
      rowless := by decide }
  behind := ["frame_type = 20 /* same */", []]
  short := by decide
  isCode :=
    .inert (by decide +kernel)
      (.block (routerSite []).complete (.inert (by decide +kernel) .nil))
  sizeless := by decide
  inert := by decide +kernel

def pickMethod : PrintedMethod where
  words := ["public"]
  heading := .method "int" "pick" ⟨by decide, by decide, by decide, by decide⟩ (by decide)
    (by decide)
  parameters := [("long", "key"), ("int", "param2")]
  tail := ";"
  descriptor := "descriptor: (JI)I"
  attributes := ["flags: (0x0001) ACC_PUBLIC", "Code:"]
  code := some pickCode
  known := by decide
  distinct := by decide
  isParameter := by
    intro parameter member
    rw [List.mem_pair] at member
    rcases member with rfl | rfl
    · exact ⟨by decide, by decide, by decide, by decide⟩
    · exact ⟨by decide, by decide, by decide, by decide⟩
  ends := by decide
  describes := by decide
  inert := by decide +kernel
  names := by decide

def routerListing : PrintedListing where
  front := ["Compiled from \"Router.java\""]
  header := routerHeader
  between := ["minor version: 0", "major version: 52"]
  members := [.method pickMethod, .field hitsField]
  behind := ["SourceFile: \"Router.java\""]
  inert_front := by decide +kernel
  inert_between := by decide +kernel

/-- A listing as it is printed, with its lines indented. -/
def routerListingText : Text :=
  join "\n"
    ["Compiled from \"Router.java\"",
      "public final class com.example.Router extends Base<?, int[]>",
      "  minor version: 0",
      "  major version: 52",
      ['\x7b'],
      "  public int pick(long, int);",
      "    descriptor: (JI)I",
      "    flags: (0x0001) ACC_PUBLIC",
      "    Code:",
      "      stack=1, locals=4, args_size=3",
      "         0: iload_3",
      "         1: tableswitch   \x7b // 1 to 1",
      "                       1: 20",
      "                 default: 22",
      "            \x7d",
      "        20: ireturn",
      "      LocalVariableTable:",
      "        Start  Length  Slot  Name   Signature",
      "            0      23     1   key   J",
      "      StackMapTable: number_of_entries = 1",
      "        frame_type = 20 /* same */",
      [],
      "  private int hits;",
      "    descriptor: I",
      "    flags: (0x0002) ACC_PRIVATE",
      [],
      ['\x7d'],
      "SourceFile: \"Router.java\""]

theorem parse_routerListing :
    parse (some routerListingText) none =
      .ok
        { kind := some .ordinary
          packageName := "com.example"
          simpleName := "Router"
          modifiers := ["public", "final"]
          superclass := some "Base"
          interfaces := []
          fields := [{ name := "hits", type := "int", modifiers := ["private"] }]
          methods :=
            [{ name := "pick", returnType := "int", modifiers := ["public"]
               parameters := ["long key", "int param2"] }] } := by
  have printed : contentLines routerListingText = routerListing.lines := by decide +kernel
  have summary : routerListing.summary =
      { kind := some .ordinary
        packageName := "com.example"
        simpleName := "Router"
        modifiers := ["public", "final"]
        superclass := some "Base"
        interfaces := []
        fields := [{ name := "hits", type := "int", modifiers := ["private"] }]
        methods :=
          [{ name := "pick", returnType := "int", modifiers := ["public"]
             parameters := ["long key", "int param2"] }] } := by decide +kernel
  rw [← summary]
  exact parse_printed routerListing printed none

end JarAtlas.Listing
