import Typewright.Source.Doc
import Typewright.Source.Tree

/-! The tokens of generated source. -/
namespace Typewright.Source

def Ident.token (ident : Ident) : Token := .mark ident.text

def ItemPath.tokens (path : ItemPath) : List Token :=
  .mark "crate" :: (path.segments ++ [path.item]).flatMap fun ident => [.mark "::", ident.token]

def anyValue : List Token := marks ":: serde_json :: Value"

namespace TypeTree

mutual
def tokens : TypeTree → List Token
  | verbatim tokens => tokens
  | anyValue => Source.anyValue
  | param name => [name.token]
  | item path arguments =>
    path.tokens ++ if arguments.isEmpty then [] else angles (commas (tokensAll arguments))
  | option inner => .mark "Option" :: angles inner.tokens
  | list inner => .mark "Vec" :: angles inner.tokens

def tokensAll : List TypeTree → List (List Token)
  | [] => []
  | type :: rest => type.tokens :: tokensAll rest
end

end TypeTree

def typed (member : Ident × TypeTree) : List Token :=
  member.1.token :: .mark ":" :: member.2.tokens

def allow (lint : String) : List Token :=
  marks "# !" ++ brackets (.mark "allow" :: parens (marks lint))

def derives (traits : String) : List Token :=
  .mark "#" :: brackets (.mark "derive" :: parens (commas (marks traits |>.map ([·]))))

def fileHead (title : String) : List Token := innerDoc title ++ innerDoc " @generated"

def closure (index : Nat) : Token := .mark s!"step_{index}"

/-- What the closures of one field share: the place of the field and two paths. -/
structure Place where
  path : String
  error : ItemPath
  malformed : ItemPath

namespace Place

def refusal (malformed : ItemPath) (path expected : String) (value : Token) : List Token :=
  malformed.tokens ++ parens (commas [[.literal path], [.literal expected], [value]])

def orRefuse (place : Place) (expected : String) : List Token :=
  marks ". ok_or_else" ++
    parens (marks "| |" ++ refusal place.malformed place.path expected (.mark "v")) ++ [.mark "?"]

def extraction (target : TypeTree) (shape : Shape) : List Token :=
  let into := angles target.tokens ++ marks ":: from"
  let read := marks ":: serde_json :: from_value ::" ++ angles target.tokens ++
    marks "( v . clone ( ) ) . ok ( )"
  match shape with
  | .string =>
    marks "v . as_str ( ) . map" ++ parens (marks "| s |" ++ into ++ marks "( s . to_string ( ) )")
  | .id =>
    marks "v . as_str ( ) . map ( | s | s . to_string ( ) )" ++
      marks ". or_else ( | | v . as_i64 ( ) . map ( | i | i . to_string ( ) ) ) . map" ++
      parens into
  | .boolean => marks "v . as_bool ( ) . map" ++ parens into
  | .integer .. =>
    marks "v . as_i64 ( ) . and_then" ++
      parens (marks "| i |" ++ angles target.tokens ++ marks ":: try_from ( i ) . ok ( )")
  | .float => marks "v . as_f64 ( ) . map" ++ parens into
  | .numeric =>
    marks "( v . is_number ( ) || v . is_string ( ) ) . then" ++ parens (marks "| |" ++ read) ++
      marks ". flatten ( )"
  | .any =>
    match target with
    | .anyValue => marks "Some ( v . clone ( ) )"
    | _ => read

def guarded (nullable : Bool) (converted : List Token) : List Token :=
  if nullable then
    marks "if v . is_null ( )" ++ braces (marks "return Ok ( None ) ;") ++ [.mark "Ok"] ++
      parens (.mark "Some" :: parens converted)
  else .mark "Ok" :: parens converted

def stepBody (place : Place) : StepTree → List Token
  | .nonNull inner =>
    let refused := refusal place.malformed place.path "non-null value" (.mark "v")
    marks "if v . is_null ( )" ++ braces (marks "return Err" ++ parens refused ++ [.mark ";"]) ++
      closure inner :: marks "( v )"
  | .mapList inner nullable =>
    guarded nullable (marks "v . as_array ( )" ++ place.orRefuse "list" ++
      marks ". iter ( ) . map" ++ parens (marks "| item |" ++ closure inner :: marks "( item )") ++
      marks ". collect :: < Result < Vec < _ > , _ > > ( ) ?")
  | .cast target shape nullable =>
    guarded nullable (extraction target shape ++ place.orRefuse shape.describe)
  | .parseEnum target nullable =>
    guarded nullable (marks "v . as_str ( )" ++ place.orRefuse "enum value" ++
      marks ". parse ::" ++ angles target.tokens ++ marks "( ) ?")
  | .buildInput builder nullable => guarded nullable (builder.tokens ++ marks "( v ) ?")

def stepTokens (place : Place) (index : Nat) (step : StepTree) : List Token :=
  .mark "let" :: closure index :: marks "= | v : &" ++ anyValue ++ marks "| -> Result" ++
    angles (commas [[.mark "_"], place.error.tokens]) ++ braces (place.stepBody step) ++ [.mark ";"]

/-- The closures, and the last of them applied to the entry under the key. -/
def chainTokens (place : Place) (key : String) (chain : ChainTree) : List Token :=
  let entry := marks "object . get" ++ parens [.literal key]
  let applied :=
    match chain.box with
    | none =>
      closure chain.last :: parens (entry ++ marks ". unwrap_or" ++
        parens (.mark "&" :: anyValue ++ marks ":: Null")) ++ [.mark "?"]
    | some box =>
      .mark "match" :: entry ++ braces (marks "None => None , Some ( v ) => Some" ++
        parens (box.tokens ++ braces (marks "value :" ++ closure chain.last :: marks "( v ) ?")))
  braces ((chain.steps.mapIdx place.stepTokens).flatten ++ applied)

end Place

def FieldTree.tokens (error malformed : ItemPath) (field : FieldTree) : List Token :=
  field.name.token :: .mark ":" ::
    Place.chainTokens ⟨s!"$.{field.key}", error, malformed⟩ field.key field.chain

def MethodTree.tokens (method : MethodTree) : List Token :=
  .mark "fn" :: method.name.token ::
    parens (commas (marks "& self" :: method.params.map typed)) ++
    .mark "->" :: method.returns.tokens ++ [.mark ";"]

def setField (name : String) (value : List Token) : List Token :=
  .mark name :: .mark ":" :: value

def literalText (text : String) : List Token := .literal text :: marks ". to_string ( )"

def ownText (name : String) : List Token := .mark name :: marks ". to_string ( )"

def cursorAt (place : String) : List Token :=
  marks s!"edges . {place} ( ) . map ( | e | e . cursor . clone ( ) )"

def pageFlag (page : Ident) (flag : String) : List Token := [page.token, .mark ".", .mark flag]

namespace Item

def variantPath (variant : Ident) : List Token := [.mark "Self", .mark "::", variant.token]

def variantTokens (name : Ident) (variants : List (Ident × String)) : List Token :=
  marks "pub enum" ++ name.token :: braces (commas (variants.map fun variant => [variant.1.token]))

def valueTokens (variants : List (Ident × String)) : List Token :=
  marks "pub const VALUES : & 'static [ & 'static str ] = &" ++
    brackets (commas (variants.map fun variant => [.literal variant.2])) ++ [.mark ";"]

def showTokens (variants : List (Ident × String)) : List Token :=
  marks "pub fn as_str ( & self ) -> & 'static str" ++ braces (marks "match self" ++
    braces (commas (variants.map fun variant =>
      variantPath variant.1 ++ [.mark "=>", .literal variant.2])))

def unknownValue (schemaName : String) (error : ItemPath) : List Token :=
  error.tokens ++ marks ":: UnknownEnumValue" ++
    braces (commas [setField "enum_name" (literalText schemaName),
      setField "value" (ownText "other")])

def readTokens (schemaName : String) (variants : List (Ident × String)) (error : ItemPath) :
    List Token :=
  marks "fn from_str ( s : & str ) -> Result < Self , Self :: Err >" ++ braces (marks "match s" ++
    braces (commas (
      (variants.map fun variant =>
        .literal variant.2 :: marks "=> Ok" ++ parens (variantPath variant.1)) ++
      [marks "other => Err" ++ parens (unknownValue schemaName error)])))

def enumTokens (name : Ident) (schemaName : String) (variants : List (Ident × String))
    (error : ItemPath) : List Token :=
  derives "Debug Clone Copy PartialEq Eq Hash" ++ variantTokens name variants ++
  .mark "impl" :: name.token :: braces (
    outerDoc " Schema spelling of every value" ++ valueTokens variants ++
    outerDoc " Schema spelling of this value" ++ showTokens variants) ++
  marks "impl :: std :: str :: FromStr for" ++ name.token :: braces (
    marks "type Err =" ++ error.tokens ++ [.mark ";"] ++ readTokens schemaName variants error)

def recordTokens (name : Ident) (generics : List Ident) (fields : List (Ident × TypeTree)) :
    List Token :=
  derives "Debug Clone" ++ marks "pub struct" ++ name.token ::
    (if generics.isEmpty then [] else angles (commas (generics.map fun param => [param.token]))) ++
    braces (commas (fields.map fun field => .mark "pub" :: typed field))

def contractTokens (name : Ident) (methods : List MethodTree) : List Token :=
  marks "pub trait" ++ name.token :: braces (methods.flatMap MethodTree.tokens)

def keyTokens (fields : List FieldTree) : List Token :=
  marks "const FIELDS : & [ & str ] = &" ++
    brackets (commas (fields.map fun field => [.literal field.key])) ++ [.mark ";"]

def objectTokens (input : Ident) (malformed : ItemPath) : List Token :=
  marks "let object =" ++ input.token :: marks ". as_object ( ) . ok_or_else" ++
    parens (marks "| |" ++ Place.refusal malformed "$" "object" input.token) ++ marks "? ;"

def unknownKeyTokens (error : ItemPath) : List Token :=
  marks "if let Some ( unknown ) = object . keys ( ) . find" ++
    parens (marks "| k | ! FIELDS . contains ( & k . as_str ( ) )") ++
    braces (marks "return Err" ++ parens (error.tokens ++ marks ":: MalformedInputShape" ++
      braces (commas [
        setField "path" (marks "format !" ++
          parens (commas [[.literal "$.\x7b\x7d"], [.mark "unknown"]])),
        setField "expected" (literalText "a known field"),
        setField "found" (literalText "unknown field")])) ++ [.mark ";"])

def filledTokens (record error malformed : ItemPath) (fields : List FieldTree) : List Token :=
  .mark "Ok" :: parens (record.tokens ++
    braces (commas (fields.map (FieldTree.tokens error malformed))))

def parserTokens (name input : Ident) (record error malformed : ItemPath)
    (fields : List FieldTree) : List Token :=
  marks "pub fn" ++ name.token :: parens (input.token :: marks ": &" ++ anyValue) ++
    marks "-> Result" ++ angles (commas [record.tokens, error.tokens]) ++
    braces (keyTokens fields ++ objectTokens input malformed ++ unknownKeyTokens error ++
      filledTokens record error malformed fields)

def builderParams (page : Ident) (pageType node : TypeTree) : List Token :=
  commas [typed (page, pageType),
    marks "cursor_of : impl Fn" ++ parens (.mark "&" :: node.tokens) ++ marks "-> String"]

def edgeTokens (page : Ident) (edge : ItemPath) : List Token :=
  marks "let edges : Vec" ++ angles edge.tokens ++ .mark "=" :: page.token ::
    marks ". data . into_iter ( ) . map" ++ parens (marks "| node |" ++ edge.tokens ++
      braces (marks "cursor : cursor_of ( & node ) , node")) ++ marks ". collect ( ) ;"

def pageInfoTokens (page : Ident) (pageInfo : ItemPath) : List Token :=
  marks "let page_info =" ++ pageInfo.tokens ++ braces (commas [
    setField "has_next_page" (pageFlag page "has_next_page"),
    setField "has_previous_page" (pageFlag page "has_previous_page"),
    setField "start_cursor" (cursorAt "first"),
    setField "end_cursor" (cursorAt "last")]) ++ [.mark ";"]

def builderTokens (name page : Ident) (pageType node : TypeTree)
    (edge connection pageInfo : ItemPath) : List Token :=
  marks "pub fn" ++ name.token :: parens (builderParams page pageType node) ++
    .mark "->" :: connection.tokens ++
    braces (edgeTokens page edge ++ pageInfoTokens page pageInfo ++
      (connection.tokens ++ braces (marks "edges , page_info")))

def title : Item → String
  | .enum .. => " Generated enum"
  | .record .. => " Generated record"
  | .contract .. => " Generated contract"
  | .parser .. | .builder .. => " Generated function"

/-- Lints that a file of this item turns off. -/
def lints : Item → List String
  | .parser .. | .builder .. => ["missing_docs", "clippy :: redundant_closure"]
  | _ => ["missing_docs"]

def tokens : Item → List Token
  | .enum name schemaName variants error => enumTokens name schemaName variants error
  | .record name generics fields => recordTokens name generics fields
  | .contract name methods => contractTokens name methods
  | .parser name input built error malformed fields =>
    parserTokens name input built error malformed fields
  | .builder name page pageType node edge connection pageInfo =>
    builderTokens name page pageType node edge connection pageInfo

end Item

namespace Documented

/-- Enums name the schema type even where its name is empty. -/
def doc (documented : Documented) : String :=
  match documented.item with
  | .enum .. => s!" Generated from enum `{documented.origin}`"
  | _ =>
    if documented.origin = "" then " Generated support type"
    else s!" Generated from `{documented.origin}`"

def tokens (documented : Documented) : List Token :=
  fileHead documented.item.title ++ documented.item.lints.flatMap allow ++
    outerDoc documented.doc ++ documented.item.tokens

end Documented

def errorTokens (error : Ident) : List Token :=
  derives "Debug Clone PartialEq Eq" ++ marks "pub enum" ++ error.token :: braces (commas [
    marks "UnknownEnumValue" ++ braces (marks "enum_name : String , value : String"),
    marks "MalformedInputShape" ++
      braces (marks "path : String , expected : String , found : String")])

/-- One arm of the function that writes errors: a shape, and the template with what is put in. -/
def writeArm (shape : List Token) (template : String) (parts : List Token) : List Token :=
  marks "Self ::" ++ shape ++ marks "=> write !" ++
    parens (commas ([.mark "f"] :: [.literal template] :: parts.map ([·])))

def displayTokens (error : Ident) : List Token :=
  marks "impl :: std :: fmt :: Display for" ++ error.token :: braces (
    marks "fn fmt ( & self , f : & mut :: std :: fmt :: Formatter < '_ > ) -> :: std :: fmt :: Result" ++
    braces (marks "match self" ++ braces (commas [
      writeArm (.mark "UnknownEnumValue" :: braces (marks "enum_name , value"))
        "unknown value `\x7b\x7d` for enum `\x7b\x7d`" (marks "value enum_name"),
      writeArm (.mark "MalformedInputShape" :: braces (marks "path , expected , found"))
        "malformed input at `\x7b\x7d`: expected \x7b\x7d, found \x7b\x7d"
        (marks "path expected found")])))

def kindArm (variant word : String) : List Token :=
  anyValue ++ .mark "::" :: marks variant ++ [.mark "=>", .literal word]

def malformedTokens (error malformed : Ident) : List Token :=
  marks "pub fn" ++ malformed.token ::
    parens (marks "path : & str , expected : & str , found : &" ++ anyValue) ++
    .mark "->" :: error.token :: braces (
      marks "let found = match found" ++ braces (commas [
        kindArm "Null" "null",
        kindArm "Bool ( _ )" "boolean",
        kindArm "Number ( _ )" "number",
        kindArm "String ( _ )" "string",
        kindArm "Array ( _ )" "list",
        kindArm "Object ( _ )" "object"]) ++ [.mark ";"] ++
      error.token :: marks ":: MalformedInputShape" ++ braces (commas [
        setField "path" (ownText "path"),
        setField "expected" (ownText "expected"),
        setField "found" (ownText "found")]))

def supportTokens (error malformed : Ident) : List Token :=
  fileHead " Errors raised by generated parse functions" ++ allow "missing_docs" ++
    errorTokens error ++ displayTokens error ++
    (marks "impl :: std :: error :: Error for" ++ error.token :: braces []) ++
    malformedTokens error malformed

end Typewright.Source
