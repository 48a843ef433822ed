import Typewright.Proofs.Variants

/-! What the tokens of generated source name. The word `crate` heads nothing but the paths of items,
whatever is printed around them. -/
namespace Typewright.Source

def Token.isFree : Token → Bool
  | mark text => text != "crate"
  | literal _ => true

/-- The tokens name nothing of the crate but the items of known names: `crate` stands only at the
head of the path of such a name, and in texts that are given. -/
inductive Spelled (names : Set QualifiedName) (texts : Set String) : List Token → Prop
  | nil : Spelled names texts []
  | token (other : token.isFree = true) (rest : Spelled names texts tokens) :
    Spelled names texts (token :: tokens)
  | path (known : name ∈ names) (spelt : ItemPath.ofName name = .ok ⟨segments, item⟩)
      (rest : Spelled names texts tokens) :
    Spelled names texts (.mark "crate" ::
      (segments.flatMap fun segment => [.mark "::", .mark segment.text]) ++
      .mark "::" :: .mark item.text :: tokens)
  | text (given : text ∈ texts) (read : typeTokens? text = some type)
      (rest : Spelled names texts tokens) : Spelled names texts (type ++ tokens)

namespace Spelled

variable {names : Set QualifiedName} {texts : Set String} {xs ys : List Token}

theorem append (first : Spelled names texts xs) (later : Spelled names texts ys) :
    Spelled names texts (xs ++ ys) := by
  induction first with
  | nil => exact later
  | token other _ ih => exact .token other ih
  | path known spelt _ ih =>
    rw [List.append_assoc, List.cons_append, List.cons_append]
    exact .path known spelt ih
  | text given read _ ih =>
    rw [List.append_assoc]
    exact .text given read ih

/-- Tokens without `crate`. Where they are written out, they are seen to be so by evaluation. -/
theorem free (others : xs.all Token.isFree = true) : Spelled names texts xs := by
  induction xs with
  | nil => exact .nil
  | cons token rest ih =>
    rw [List.all_cons, Bool.and_eq_true] at others
    exact .token others.1 (ih others.2)

theorem parens (inner : Spelled names texts xs) : Spelled names texts (parens xs) :=
  .append (.token rfl inner) (.free rfl)

theorem brackets (inner : Spelled names texts xs) : Spelled names texts (brackets xs) :=
  .append (.token rfl inner) (.free rfl)

theorem braces (inner : Spelled names texts xs) : Spelled names texts (braces xs) :=
  .append (.token rfl inner) (.free rfl)

theorem angles (inner : Spelled names texts xs) : Spelled names texts (angles xs) :=
  .append (.token rfl inner) (.free rfl)

theorem flatten {items : List (List Token)} (each : ∀ item ∈ items, Spelled names texts item) :
    Spelled names texts items.flatten := by
  induction items with
  | nil => exact .nil
  | cons item rest ih =>
    rw [List.forall_mem_cons] at each
    exact .append each.1 (ih each.2)

theorem flatMap {items : List α} {print : α → List Token}
    (each : ∀ item ∈ items, Spelled names texts (print item)) :
    Spelled names texts (items.flatMap print) :=
  flatten (List.forall_mem_map.mpr each)

/-- A list of items that is written out is spelled item by item. -/
theorem item {items : List (List Token)} (first : Spelled names texts xs)
    (rest : Spelled names texts (commas items)) : Spelled names texts (commas (xs :: items)) := by
  cases items with
  | nil => simpa [commas] using first
  | cons next later =>
    rw [commas, List.intercalate_cons_cons]
    exact .append (.append first (.free rfl)) rest

theorem commas {items : List (List Token)} (each : ∀ item ∈ items, Spelled names texts item) :
    Spelled names texts (commas items) := by
  induction items with
  | nil => exact .nil
  | cons item rest ih =>
    rw [List.forall_mem_cons] at each
    exact .item each.1 (ih each.2)

theorem commasOf {items : List α} {print : α → List Token}
    (each : ∀ item ∈ items, Spelled names texts (print item)) :
    Spelled names texts (Source.commas (items.map print)) :=
  commas (List.forall_mem_map.mpr each)

theorem ofPath {name : QualifiedName} {path : ItemPath} (known : name ∈ names)
    (spelt : ItemPath.ofName name = .ok path) : Spelled names texts path.tokens := by
  simpa [ItemPath.tokens, Ident.token] using Spelled.path known spelt .nil

theorem ofText {text : String} {type : List Token} (given : text ∈ texts)
    (read : typeTokens? text = some type) : Spelled names texts type := by
  rw [← List.append_nil type]
  exact .text given read .nil

/-- More names and texts may be known. Names that have no path need not be. -/
theorem mono {others : Set QualifiedName} {more : Set String} (spelled : Spelled names texts xs)
    (known : ∀ name ∈ names, ∀ path, ItemPath.ofName name = .ok path → name ∈ others)
    (given : texts ⊆ more) : Spelled others more xs := by
  induction spelled with
  | nil => exact .nil
  | token other _ ih => exact .token other ih
  | path member spelt _ ih => exact .path (known _ member _ spelt) spelt ih
  | text member read _ ih => exact .text (given member) read ih

end Spelled

theorem Ident.isFree_token {name : String} {ident : Ident} (spelt : Ident.ofName name = .ok ident) :
    ident.token.isFree = true := by
  rw [Ident.token, Token.isFree, bne_iff_ne]
  intro crate
  rcases ofName_cases spelt with ⟨path, text⟩ | ⟨_, text⟩ | ⟨_, _, _, word⟩
  · have apart : ∀ word ∈ pathWords, word ++ "_" ≠ "crate" := by decide
    exact apart name path (text.symm.trans crate)
  · have first := congrArg (·.toList.head?) (text.symm.trans crate)
    simp at first
  · rw [crate] at word
    exact absurd word (by decide)

theorem isFree_closure (index : Nat) : (closure index).isFree = true := by
  rw [closure, Token.isFree, bne_iff_ne]
  intro crate
  have first := congrArg (·.toList.head?) crate
  simp [toString] at first

/-! One lemma for each printing function. Its proof goes part by part as the function does: what is
written out is free by evaluation, and what is handed over is spelled by hypothesis. -/

section Print

variable {names : Set QualifiedName} {texts : Set String} {place : Place} {ident : Ident}
  {malformed : ItemPath} {target : TypeTree} {converted : List Token} {value : Token}

theorem spelled_typed {member : Ident × TypeTree} (name : member.1.token.isFree = true)
    (type : Spelled names texts member.2.tokens) : Spelled names texts (typed member) :=
  .token name (.token rfl type)

theorem spelled_refusal (path expected : String) (known : Spelled names texts malformed.tokens)
    (other : value.isFree = true) :
    Spelled names texts (Place.refusal malformed path expected value) :=
  .append known (.parens (.item (.free rfl) (.item (.free rfl) (.item (.token other .nil) .nil))))

theorem spelled_orRefuse (expected : String) (known : Spelled names texts place.malformed.tokens) :
    Spelled names texts (place.orRefuse expected) :=
  .append (.append (.free rfl) (.parens (.append (.free rfl) (spelled_refusal _ _ known rfl))))
    (.free rfl)

theorem spelled_extraction (shape : Shape) (type : Spelled names texts target.tokens) :
    Spelled names texts (Place.extraction target shape) := by
  have into : Spelled names texts (angles target.tokens ++ marks ":: from") :=
    .append (.angles type) (.free rfl)
  have read : Spelled names texts (marks ":: serde_json :: from_value ::" ++ angles target.tokens ++
      marks "( v . clone ( ) ) . ok ( )") :=
    .append (.append (.free rfl) (.angles type)) (.free rfl)
  cases shape with
  | string => exact .append (.free rfl) (.parens (.append (.append (.free rfl) into) (.free rfl)))
  | id => exact .append (.free rfl) (.parens into)
  | boolean => exact .append (.free rfl) (.parens into)
  | integer min max =>
    exact .append (.free rfl) (.parens (.append (.append (.free rfl) (.angles type)) (.free rfl)))
  | float => exact .append (.free rfl) (.parens into)
  | numeric =>
    exact .append (.append (.free rfl) (.parens (.append (.free rfl) read))) (.free rfl)
  | any =>
    cases target with
    | anyValue => exact .free rfl
    | verbatim _ | param _ | item _ _ | option _ | list _ => exact read

theorem spelled_guarded (nullable : Bool) (inner : Spelled names texts converted) :
    Spelled names texts (Place.guarded nullable converted) := by
  cases nullable with
  | true => exact .append (.free rfl) (.parens (.token rfl (.parens inner)))
  | false => exact .token rfl (.parens inner)

def StepTree.IsSpelled (names : Set QualifiedName) (texts : Set String) : StepTree → Prop
  | .cast target _ _ | .parseEnum target _ => Spelled names texts target.tokens
  | .buildInput builder _ => Spelled names texts builder.tokens
  | .nonNull _ | .mapList _ _ => True

theorem spelled_stepBody {step : StepTree} (known : Spelled names texts place.malformed.tokens)
    (held : step.IsSpelled names texts) : Spelled names texts (place.stepBody step) := by
  cases step with
  | nonNull inner =>
    have refused : Spelled names texts
        (Place.refusal place.malformed place.path "non-null value" (.mark "v")) :=
      spelled_refusal _ _ known rfl
    have applied : Spelled names texts (closure inner :: marks "( v )") :=
      .token (isFree_closure inner) (.free rfl)
    exact .append (.append (.free rfl)
      (.braces (.append (.append (.free rfl) (.parens refused)) (.free rfl)))) applied
  | mapList inner nullable =>
    have applied : Spelled names texts (closure inner :: marks "( item )") :=
      .token (isFree_closure inner) (.free rfl)
    refine spelled_guarded nullable ?_
    exact .append (.append (.append (.append (.free rfl) (spelled_orRefuse _ known)) (.free rfl))
      (.parens (.append (.free rfl) applied))) (.free rfl)
  | cast target shape nullable =>
    exact spelled_guarded nullable
      (.append (spelled_extraction shape held) (spelled_orRefuse _ known))
  | parseEnum target nullable =>
    refine spelled_guarded nullable ?_
    exact .append (.append (.append (.append (.free rfl) (spelled_orRefuse _ known)) (.free rfl))
      (.angles held)) (.free rfl)
  | buildInput builder nullable => exact spelled_guarded nullable (.append held (.free rfl))

theorem spelled_stepTokens {step : StepTree} (index : Nat)
    (error : Spelled names texts place.error.tokens)
    (known : Spelled names texts place.malformed.tokens) (held : step.IsSpelled names texts) :
    Spelled names texts (place.stepTokens index step) := by
  have opened : Spelled names texts (.mark "let" :: closure index :: marks "= | v : &") :=
    .token rfl (.token (isFree_closure index) (.free rfl))
  exact .append (.append (.append (.append (.append opened (.free rfl)) (.free rfl))
    (.angles (.item (.free rfl) (.item error .nil)))) (.braces (spelled_stepBody known held)))
    (.free rfl)

theorem spelled_chainTokens {chain : ChainTree} (key : String)
    (error : Spelled names texts place.error.tokens)
    (known : Spelled names texts place.malformed.tokens)
    (steps : ∀ step ∈ chain.steps, step.IsSpelled names texts)
    (box : ∀ box ∈ chain.box, Spelled names texts box.tokens) :
    Spelled names texts (place.chainTokens key chain) := by
  refine .braces (.append (.flatten fun _ listed => ?closures) ?applied)
  case closures =>
    obtain ⟨index, bound, rfl⟩ := List.mem_mapIdx.mp listed
    exact spelled_stepTokens index error known (steps _ (List.getElem_mem bound))
  case applied =>
    have last : Spelled names texts [closure chain.last] := .token (isFree_closure _) .nil
    cases boxed : chain.box with
    | none => exact .append (.append last (.free rfl)) (.free rfl)
    | some path =>
      exact .append (.free rfl) (.braces (.append (.free rfl) (.parens (.append (box path boxed)
        (.braces (.append (.free rfl) (.append last (.free rfl))))))))

theorem spelled_fieldTokens {error : ItemPath} {field : FieldTree}
    (named : field.name.token.isFree = true) (ofError : Spelled names texts error.tokens)
    (known : Spelled names texts malformed.tokens)
    (steps : ∀ step ∈ field.chain.steps, step.IsSpelled names texts)
    (box : ∀ box ∈ field.chain.box, Spelled names texts box.tokens) :
    Spelled names texts (field.tokens error malformed) :=
  .token named (.token rfl (spelled_chainTokens _ ofError known steps box))

theorem spelled_methodTokens {method : MethodTree} (named : method.name.token.isFree = true)
    (params : ∀ param ∈ method.params, Spelled names texts (typed param))
    (returns : Spelled names texts method.returns.tokens) : Spelled names texts method.tokens := by
  refine .append (.append (.token rfl (.token named (.parens (.item (.free rfl) ?_))))
    (.token rfl returns)) (.free rfl)
  exact .commasOf params

section Enum

variable {schemaName : String} {variants : List (Ident × String)} {error : ItemPath}

theorem spelled_variantTokens (named : ident.token.isFree = true)
    (each : ∀ variant ∈ variants, variant.1.token.isFree = true) :
    Spelled names texts (Item.variantTokens ident variants) := by
  have listed : Spelled names texts (commas (variants.map fun variant => [variant.1.token])) :=
    .commasOf fun variant listed => .token (each variant listed) .nil
  exact .append (.free rfl) (.token named (.braces listed))

theorem spelled_valueTokens : Spelled names texts (Item.valueTokens variants) := by
  have listed : Spelled names texts
      (commas (variants.map fun variant => [Token.literal variant.2])) :=
    .commasOf fun _ _ => .free rfl
  exact .append (.append (.free rfl) (.brackets listed)) (.free rfl)

theorem spelled_variantPath {variant : Ident} (other : variant.token.isFree = true) :
    Spelled names texts (Item.variantPath variant) :=
  .token rfl (.token rfl (.token other .nil))

theorem spelled_showTokens (each : ∀ variant ∈ variants, variant.1.token.isFree = true) :
    Spelled names texts (Item.showTokens variants) := by
  have arms : Spelled names texts (commas (variants.map fun variant =>
      Item.variantPath variant.1 ++ [.mark "=>", .literal variant.2])) :=
    .commasOf fun variant listed => .append (spelled_variantPath (each variant listed)) (.free rfl)
  exact .append (.free rfl) (.braces (.append (.free rfl) (.braces arms)))

theorem spelled_readTokens (each : ∀ variant ∈ variants, variant.1.token.isFree = true)
    (ofError : Spelled names texts error.tokens) :
    Spelled names texts (Item.readTokens schemaName variants error) := by
  have refused : Spelled names texts (Item.unknownValue schemaName error) :=
    .append (.append ofError (.free rfl)) (.free rfl)
  refine .append (.free rfl) (.braces (.append (.free rfl) (.braces (.commas fun arm listed => ?_))))
  rcases List.mem_append.mp listed with ofVariant | last
  · obtain ⟨variant, among, rfl⟩ := List.mem_map.mp ofVariant
    exact .append (.free rfl) (.parens (spelled_variantPath (each variant among)))
  · obtain rfl := List.mem_singleton.mp last
    exact .append (.free rfl) (.parens refused)

theorem spelled_enumTokens (named : ident.token.isFree = true)
    (each : ∀ variant ∈ variants, variant.1.token.isFree = true)
    (ofError : Spelled names texts error.tokens) :
    Spelled names texts (Item.enumTokens ident schemaName variants error) := by
  have inherent : Spelled names texts (.mark "impl" :: ident.token :: braces (
      outerDoc " Schema spelling of every value" ++ Item.valueTokens variants ++
      outerDoc " Schema spelling of this value" ++ Item.showTokens variants)) :=
    .token rfl (.token named (.braces
      (.append (.append (.append (.free rfl) spelled_valueTokens) (.free rfl))
        (spelled_showTokens each))))
  have failure : Spelled names texts (marks "type Err =" ++ error.tokens ++ [.mark ";"]) :=
    .append (.append (.free rfl) ofError) (.free rfl)
  have parsing : Spelled names texts (ident.token :: braces (
      marks "type Err =" ++ error.tokens ++ [.mark ";"] ++
        Item.readTokens schemaName variants error)) :=
    .token named (.braces (.append failure (spelled_readTokens each ofError)))
  exact .append (.append (.append (.append (.free rfl) (spelled_variantTokens named each)) inherent)
    (.free rfl)) parsing

end Enum

theorem spelled_recordTokens {generics : List Ident} {fields : List (Ident × TypeTree)}
    (named : ident.token.isFree = true)
    (params : ∀ param ∈ generics, param.token.isFree = true)
    (each : ∀ field ∈ fields, Spelled names texts (typed field)) :
    Spelled names texts (Item.recordTokens ident generics fields) := by
  have listed : Spelled names texts (if generics.isEmpty then [] else
      angles (commas (generics.map fun param => [param.token]))) := by
    split
    · exact .nil
    · exact .angles (.commasOf fun param listed => .token (params param listed) .nil)
  exact .append (.append (.free rfl) (.token named listed))
    (.braces (.commasOf fun field listed => .token rfl (each field listed)))

theorem spelled_contractTokens {methods : List MethodTree} (named : ident.token.isFree = true)
    (each : ∀ method ∈ methods, Spelled names texts method.tokens) :
    Spelled names texts (Item.contractTokens ident methods) :=
  .append (.free rfl) (.token named (.braces (.flatMap each)))

section Parser

variable {input : Ident} {record error : ItemPath} {fields : List FieldTree}

theorem spelled_keyTokens : Spelled names texts (Item.keyTokens fields) := by
  have keys : Spelled names texts
      (commas (fields.map fun field => [Token.literal field.key])) :=
    .commasOf fun _ _ => .free rfl
  exact .append (.append (.free rfl) (.brackets keys)) (.free rfl)

theorem spelled_objectTokens (taken : input.token.isFree = true)
    (known : Spelled names texts malformed.tokens) :
    Spelled names texts (Item.objectTokens input malformed) := by
  have object : Spelled names texts (input.token :: marks ". as_object ( ) . ok_or_else") :=
    .token taken (.free rfl)
  have refused : Spelled names texts
      (parens (marks "| |" ++ Place.refusal malformed "$" "object" input.token)) :=
    .parens (.append (.free rfl) (spelled_refusal _ _ known taken))
  exact .append (.append (.append (.free rfl) object) refused) (.free rfl)

theorem spelled_unknownKeyTokens (ofError : Spelled names texts error.tokens) :
    Spelled names texts (Item.unknownKeyTokens error) := by
  refine .append (.append (.free rfl) (.free rfl)) (.braces (.append (.append (.free rfl) ?_)
    (.free rfl)))
  exact .parens (.append (.append ofError (.free rfl)) (.free rfl))

theorem spelled_filledTokens (ofRecord : Spelled names texts record.tokens)
    (each : ∀ field ∈ fields, Spelled names texts (field.tokens error malformed)) :
    Spelled names texts (Item.filledTokens record error malformed fields) :=
  .token rfl (.parens (.append ofRecord (.braces (.commasOf each))))

theorem spelled_parserTokens (named : ident.token.isFree = true)
    (taken : input.token.isFree = true) (ofRecord : Spelled names texts record.tokens)
    (ofError : Spelled names texts error.tokens) (known : Spelled names texts malformed.tokens)
    (each : ∀ field ∈ fields, Spelled names texts (field.tokens error malformed)) :
    Spelled names texts (Item.parserTokens ident input record error malformed fields) := by
  have head : Spelled names texts
      (ident.token :: parens (input.token :: marks ": &" ++ anyValue)) :=
    .token named (.parens (.token taken (.free rfl)))
  have results : Spelled names texts (angles (commas [record.tokens, error.tokens])) :=
    .angles (.item ofRecord (.item ofError .nil))
  have checked : Spelled names texts
      (Item.keyTokens fields ++ Item.objectTokens input malformed ++ Item.unknownKeyTokens error) :=
    .append (.append spelled_keyTokens (spelled_objectTokens taken known))
      (spelled_unknownKeyTokens ofError)
  exact .append (.append (.append (.append (.free rfl) head) (.free rfl)) results)
    (.braces (.append checked (spelled_filledTokens ofRecord each)))

end Parser

section Builder

variable {page : Ident} {pageType node : TypeTree} {edge connection pageInfo : ItemPath}

theorem spelled_builderParams (taken : page.token.isFree = true)
    (ofPage : Spelled names texts pageType.tokens) (ofNode : Spelled names texts node.tokens) :
    Spelled names texts (Item.builderParams page pageType node) := by
  have cursors : Spelled names texts (marks "cursor_of : impl Fn" ++
      parens (.mark "&" :: node.tokens) ++ marks "-> String") :=
    .append (.append (.free rfl) (.parens (.token rfl ofNode))) (.free rfl)
  exact .item (.token taken (.token rfl ofPage)) (.item cursors .nil)

theorem spelled_edgeTokens (taken : page.token.isFree = true)
    (ofEdge : Spelled names texts edge.tokens) :
    Spelled names texts (Item.edgeTokens page edge) := by
  have pages : Spelled names texts
      (.mark "=" :: page.token :: marks ". data . into_iter ( ) . map") :=
    .token rfl (.token taken (.free rfl))
  have each : Spelled names texts (parens (marks "| node |" ++ edge.tokens ++
      braces (marks "cursor : cursor_of ( & node ) , node"))) :=
    .parens (.append (.append (.free rfl) ofEdge) (.free rfl))
  exact .append (.append (.append (.append (.free rfl) (.angles ofEdge)) pages) each) (.free rfl)

theorem spelled_pageInfoTokens (taken : page.token.isFree = true)
    (ofPageInfo : Spelled names texts pageInfo.tokens) :
    Spelled names texts (Item.pageInfoTokens page pageInfo) := by
  have flag (name flag : String) (other : (Token.mark name).isFree = true)
      (also : (Token.mark flag).isFree = true) :
      Spelled names texts (setField name (pageFlag page flag)) :=
    .token other (.token rfl (.token taken (.token rfl (.token also .nil))))
  have info : Spelled names texts (braces (commas [
      setField "has_next_page" (pageFlag page "has_next_page"),
      setField "has_previous_page" (pageFlag page "has_previous_page"),
      setField "start_cursor" (cursorAt "first"), setField "end_cursor" (cursorAt "last")])) :=
    .braces (.item (flag _ _ rfl rfl) (.item (flag _ _ rfl rfl) (.free rfl)))
  exact .append (.append (.append (.free rfl) ofPageInfo) info) (.free rfl)

theorem spelled_builderTokens (named : ident.token.isFree = true)
    (taken : page.token.isFree = true) (ofPage : Spelled names texts pageType.tokens)
    (ofNode : Spelled names texts node.tokens) (ofEdge : Spelled names texts edge.tokens)
    (ofConnection : Spelled names texts connection.tokens)
    (ofPageInfo : Spelled names texts pageInfo.tokens) :
    Spelled names texts (Item.builderTokens ident page pageType node edge connection pageInfo) := by
  have head : Spelled names texts (ident.token :: parens (Item.builderParams page pageType node)) :=
    .token named (.parens (spelled_builderParams taken ofPage ofNode))
  have built : Spelled names texts (connection.tokens ++ braces (marks "edges , page_info")) :=
    .append ofConnection (.free rfl)
  have body : Spelled names texts
      (Item.edgeTokens page edge ++ Item.pageInfoTokens page pageInfo ++
        (connection.tokens ++ braces (marks "edges , page_info"))) :=
    .append (.append (spelled_edgeTokens taken ofEdge) (spelled_pageInfoTokens taken ofPageInfo))
      built
  exact .append (.append (.append (.free rfl) head) (.token rfl ofConnection)) (.braces body)

end Builder

/-- The attributes of a file, whatever they say, and then its item. -/
theorem spelled_documented {documented : Documented}
    (item : Spelled names texts documented.item.tokens) :
    Spelled names texts documented.tokens := by
  have lints : Spelled names texts (documented.item.lints.flatMap allow) := by
    cases documented.item with
    | enum _ _ _ _ | record _ _ _ | contract _ _ | parser _ _ _ _ _ _ | builder _ _ _ _ _ _ _ =>
      exact .free rfl
  have title : Spelled names texts (fileHead documented.item.title) := .free rfl
  exact .append (.append (.append title lints) (.free rfl)) item

theorem spelled_malformedTokens {error malformed : Ident} (named : error.token.isFree = true)
    (namedToo : malformed.token.isFree = true) :
    Spelled names texts (malformedTokens error malformed) := by
  have head : Spelled names texts (malformed.token ::
      parens (marks "path : & str , expected : & str , found : &" ++ anyValue)) :=
    .token namedToo (.free rfl)
  refine .append (.append (.free rfl) head) (.token rfl (.token named (.braces ?_)))
  exact .append (.append (.free rfl) (.token named (.free rfl))) (.free rfl)

theorem spelled_supportTokens {error malformed : Ident} (named : error.token.isFree = true)
    (namedToo : malformed.token.isFree = true) :
    Spelled names texts (supportTokens error malformed) := by
  have defined : Spelled names texts (errorTokens error) :=
    .append (.free rfl) (.token named (.free rfl))
  have displayed : Spelled names texts (displayTokens error) :=
    .append (.free rfl) (.token named (.free rfl))
  have isError : Spelled names texts
      (marks "impl :: std :: error :: Error for" ++ error.token :: braces []) :=
    .append (.free rfl) (.token named (.free rfl))
  exact .append (.append (.append (.append (.free rfl) defined) displayed) isError)
    (spelled_malformedTokens named namedToo)

theorem spelled_moduleFile {tree : ModuleTree}
    (folders : ∀ ident ∈ tree.folders, ident.token.isFree = true)
    (files : ∀ ident ∈ tree.files, ident.token.isFree = true) :
    Spelled names texts tree.file.tokens := by
  have declared : ∀ ident ∈ tree.folders ++ tree.files,
      Spelled names texts (ModuleTree.declare ident) := by
    intro ident listed
    have other := (List.mem_append.mp listed).elim (folders ident) (files ident)
    exact .append (.free rfl) (.token other (.free rfl))
  exact .append (.append (.free rfl) (.flatMap declared))
    (.flatMap fun ident listed => .append (.free rfl) (.token (files ident listed) (.free rfl)))

end Print
end Typewright.Source
