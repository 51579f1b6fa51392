import RestClient.Proofs.Client.Bodies
import RestClient.Proofs.Client.Descriptions

/-! # Which declarations are interfaces

The declarations of an operation are object types, put together from the names, the types and the
descriptions of its descriptor. If the braces in each of these come in pairs, then so do the braces of
every entry, and the type of the parameters and all variants of the result are interfaces, whatever
unions and intersections are in them.

* `isBalanced_of_mem_paramsEntries` and `isBalanced_of_mem_variantFields`: the entries are balanced;
* `ofBody_eq_interface_of_balanced`: the form of a declaration follows the braces of its body. -/

namespace RestClient

open RestClient.Text RestClient.TypeScript

/-! ### Balanced descriptors -/

/-- A parameter whose name, type and description are balanced. -/
structure Param.HasBalancedTexts (param : Param) : Prop where
  name : IsBalanced param.name.toList
  type : IsBalanced param.type.toList
  description : ∀ text ∈ param.description, IsBalanced text.toList

/-- A body whose type and description are balanced. -/
structure BodyParam.HasBalancedTexts (body : BodyParam) : Prop where
  type : IsBalanced body.type.toList
  description : ∀ text ∈ body.description, IsBalanced text.toList

/-- An operation whose parameters are balanced, and the types of its responses too. -/
structure Operation.HasBalancedTexts (op : Operation) : Prop where
  params : ∀ param ∈ op.positionalParams ++ op.queryParams ++ op.headerParams,
    param.HasBalancedTexts
  body : ∀ body ∈ op.bodyParam, body.HasBalancedTexts
  responses : ∀ response ∈ op.responses, ∀ form ∈ response.mediaTypes, IsBalanced form.type.toList

instance (param : Param) : Decidable param.HasBalancedTexts :=
  decidable_of_iff (IsBalanced param.name.toList ∧ IsBalanced param.type.toList ∧
      ∀ text ∈ param.description, IsBalanced text.toList)
    ⟨fun ⟨hname, htype, hdescription⟩ => ⟨hname, htype, hdescription⟩,
      fun h => ⟨h.name, h.type, h.description⟩⟩

instance (body : BodyParam) : Decidable body.HasBalancedTexts :=
  decidable_of_iff (IsBalanced body.type.toList ∧
      ∀ text ∈ body.description, IsBalanced text.toList)
    ⟨fun ⟨htype, hdescription⟩ => ⟨htype, hdescription⟩, fun h => ⟨h.type, h.description⟩⟩

instance (op : Operation) : Decidable op.HasBalancedTexts :=
  decidable_of_iff
    ((∀ param ∈ op.positionalParams ++ op.queryParams ++ op.headerParams,
        param.HasBalancedTexts) ∧ (∀ body ∈ op.bodyParam, body.HasBalancedTexts) ∧
      ∀ response ∈ op.responses, ∀ form ∈ response.mediaTypes, IsBalanced form.type.toList)
    ⟨fun ⟨hparams, hbody, hresponses⟩ => ⟨hparams, hbody, hresponses⟩,
      fun h => ⟨h.params, h.body, h.responses⟩⟩

/-! ### Balanced entries -/

theorem isBalanced_format {field : Field} (hkey : IsBalanced field.key.toList)
    (htype : IsBalanced field.type.toList) : IsBalanced field.format.toList := by
  have hreadonly : IsBalanced (if field.readonly then "readonly " else "").toList :=
    isBalanced_of_signs_eq_nil (by split <;> decide)
  have hmark : IsBalanced (if field.required then "" else "?").toList :=
    isBalanced_of_signs_eq_nil (by split <;> decide)
  have hcolon : IsBalanced ": ".toList := isBalanced_of_signs_eq_nil (by decide)
  have hend : IsBalanced ";".toList := isBalanced_of_signs_eq_nil (by decide)
  rw [Field.format]
  simp only [String.toList_append]
  exact ((((hreadonly.append hkey).append hmark).append hcolon).append htype).append hend

theorem isBalanced_typeOrAny {type : String} (h : IsBalanced type.toList) :
    IsBalanced (typeOrAny type).toList := by
  unfold typeOrAny
  split
  · exact isBalanced_of_signs_eq_nil (by decide)
  · exact h

/-- A field with a balanced description above it is balanced if the field is. -/
theorem isBalanced_documented {description : Option String} {field : Field}
    (hdescription : ∀ text ∈ description, IsBalanced text.toList)
    (hfield : IsBalanced field.format.toList) :
    IsBalanced (documented description field).toList := by
  rw [isBalanced_iff_closesFrom, closesFrom_documented hdescription, ← isBalanced_iff_closesFrom]
  exact hfield

theorem Param.HasBalancedTexts.documented {param : Param} (h : param.HasBalancedTexts)
    {key : String → String} (hkey : ∀ name : String, signs (key name).toList = signs name.toList)
    (required : Bool) :
    IsBalanced (documented param.description (param.field key required)).toList := by
  have hname : IsBalanced (key param.name).toList := by
    rw [← isBalanced_signs, hkey, isBalanced_signs]
    exact h.name
  exact isBalanced_documented h.description (isBalanced_format hname (isBalanced_typeOrAny h.type))

theorem BodyParam.HasBalancedTexts.entry {body : BodyParam} (h : body.HasBalancedTexts) :
    IsBalanced body.entry.toList := by
  have hkey : IsBalanced "data".toList := isBalanced_of_signs_eq_nil (by decide)
  exact isBalanced_documented h.description (isBalanced_format hkey (isBalanced_typeOrAny h.type))

/-- A group of balanced parameters is a balanced object type under the name of the group. -/
theorem isBalanced_of_mem_groupEntry {name : String} {key : String → String} {params : List Param}
    (hname : IsBalanced name.toList)
    (hkey : ∀ name : String, signs (key name).toList = signs name.toList)
    (h : ∀ param ∈ params, param.HasBalancedTexts) :
    ∀ entry ∈ groupEntry name key params, IsBalanced entry.toList := by
  intro entry hentry
  unfold groupEntry at hentry
  split at hentry
  · cases hentry
  · obtain rfl := List.mem_singleton.1 hentry
    refine isBalanced_format hname (isBalanced_objectBody (List.forall_mem_map.2 fun param hparam => ?_))
    exact (h param hparam).documented hkey param.required

/-- **The entries of balanced parameters are balanced.** -/
theorem isBalanced_of_mem_paramsEntries {op : Operation} (h : op.HasBalancedTexts) :
    ∀ entry ∈ op.paramsEntries, IsBalanced entry.toList := by
  have hparams := h.params
  simp only [List.forall_mem_append] at hparams
  obtain ⟨⟨hpositional, hquery⟩, hheaders⟩ := hparams
  simp only [Operation.paramsEntries, List.forall_mem_append]
  refine ⟨⟨⟨?_, ?_⟩, ?_⟩, ?_⟩
  · exact List.forall_mem_map.2 fun param hparam =>
      (hpositional param hparam).documented signs_propertyKey true
  · exact List.forall_mem_map.2 fun body hbody => (h.body body (Option.mem_toList.1 hbody)).entry
  · exact isBalanced_of_mem_groupEntry (isBalanced_of_signs_eq_nil (by decide)) signs_propertyKey
      hquery
  · exact isBalanced_of_mem_groupEntry (isBalanced_of_signs_eq_nil (by decide)) signs_stringLiteral
      hheaders

theorem isBalanced_statusType (response : Response) : IsBalanced response.statusType.toList := by
  refine isBalanced_of_signs_eq_nil (signs_eq_nil_iff.2 fun c hc => ?_)
  have halphanum := isAlphanum_of_mem_statusType response c hc
  exact forall_isAlphanum (p := fun c => c.isAlphanum = true → isSign c = false) (by decide)
    halphanum halphanum

theorem isBalanced_of_bodyType? {response : Response} {type : String}
    (h : ∀ form ∈ response.mediaTypes, IsBalanced form.type.toList)
    (htype : response.bodyType? = some type) : IsBalanced type.toList := by
  have hne : response.mediaTypes ≠ [] :=
    Response.isSome_bodyType?_iff.1 (by rw [htype, Option.isSome_some])
  obtain ⟨form, hform, -, hchosen, -⟩ := Response.exists_chosenMediaType? hne
  rw [hchosen, Option.some.injEq] at htype
  exact htype ▸ isBalanced_typeOrAny (h form hform)

/-- **The fields of a variant are balanced**, if the types of the response are. -/
theorem isBalanced_of_mem_variantFields {response : Response}
    (h : ∀ form ∈ response.mediaTypes, IsBalanced form.type.toList) :
    ∀ entry ∈ response.variantFields.map Field.format, IsBalanced entry.toList := by
  have hstatus : IsBalanced "status".toList := isBalanced_of_signs_eq_nil (by decide)
  have hheaders : IsBalanced "headers".toList ∧ IsBalanced "Headers".toList :=
    ⟨isBalanced_of_signs_eq_nil (by decide), isBalanced_of_signs_eq_nil (by decide)⟩
  have hkey : IsBalanced "data".toList := isBalanced_of_signs_eq_nil (by decide)
  have hdata : ∀ type ∈ response.bodyType?.toList, IsBalanced type.toList := fun type htype =>
    isBalanced_of_bodyType? h (Option.mem_toList.1 htype)
  refine List.forall_mem_map.2 ?_
  unfold Response.variantFields
  simp only [List.forall_mem_append, List.forall_mem_cons, List.forall_mem_map]
  refine ⟨⟨?_, ?_, List.forall_mem_nil _⟩, fun type htype => ?_⟩
  · exact isBalanced_format hstatus (isBalanced_statusType response)
  · exact isBalanced_format hheaders.1 hheaders.2
  · exact isBalanced_format hkey (hdata type htype)

/-! ### The form of declarations -/

theorem declaration_of_ofBody {body : String}
    (h : DeclarationKind.ofBody body.toList = .interface) (name : String) :
    declaration name body = "export interface " ++ name ++ " " ++ body := by
  rw [declaration, h]

/-- **The form of a declaration follows the braces of its body.** A balanced body is declared as an
interface if and only if it begins with a brace, blanks apart, and has every sign of a union or an
intersection inside of some pair of braces. Object types with balanced entries are of this kind, so
that an operation with balanced names, types and descriptions declares its parameters and all variants
of its result as interfaces. -/
theorem ofBody_eq_interface_of_balanced :
    (∀ tree : BraceTree, (tree.depths 0).map Prod.fst = tree.text ∧
      (DeclarationKind.ofBody tree.text = .interface ↔
        tree.text.find? (fun c => !isBlank c) = some '{' ∧
          ∀ p ∈ tree.depths 0, p.1 = '|' ∨ p.1 = '&' → 0 < p.2)) ∧
    (∀ entries : List String, (∀ entry ∈ entries, IsBalanced entry.toList) →
      IsBalanced (objectBody entries).toList ∧
        DeclarationKind.ofBody (objectBody entries).toList = .interface) ∧
    (∀ op : Operation, op.HasBalancedTexts →
      (∀ names : Names, op.paramsDeclaration names =
        "export interface " ++ names.paramsType ++ " " ++ objectBody op.paramsEntries) ∧
      ∀ phrases : PhraseTable, ∃ union, (op.code phrases).value.result =
        paragraphs (union :: op.responses.map fun response =>
          "export interface " ++ (op.names.variant phrases response).value ++ " " ++
            response.variantBody)) := by
  refine ⟨fun tree => ⟨tree.map_fst_depths 0, ofBody_text_eq_interface_iff tree⟩,
    fun entries h => ⟨isBalanced_objectBody h, ofBody_objectBody_eq_interface h⟩,
    fun op h => ⟨fun names => ?_, fun phrases => ?_⟩⟩
  · have hkind := ofBody_objectBody_eq_interface (isBalanced_of_mem_paramsEntries h)
    exact declaration_of_ofBody hkind names.paramsType
  · obtain ⟨union, hresult⟩ := op.exists_result_eq phrases
    refine ⟨union, hresult.trans ?_⟩
    refine congrArg (fun blocks => paragraphs (union :: blocks)) (List.map_congr_left ?_)
    intro response hresponse
    have hfields := isBalanced_of_mem_variantFields (h.responses response hresponse)
    exact declaration_of_ofBody (ofBody_objectBody_eq_interface hfields) _

/-- An operation with unions and intersections in its types, and with braces in its descriptions. -/
def searchItems : Operation where
  path := "/items/{id}"
  verb := .post
  server := ""
  positionalParams := [⟨"id", "string | number", true, some "The \x7bid\x7d of an item"⟩]
  queryParams := [⟨"as{of}", "\x7b\n  from: Date\n\x7d & Range", false, none⟩]
  headerParams := []
  bodyParam := some ⟨"", "\x7b text: string \x7d | \x7b regex: string \x7d", true, none,
    "application/json"⟩
  responses := [⟨"200", [⟨"application/json", "\x7b a: A \x7d\n| \x7b b: B \x7d"⟩]⟩]

theorem searchItems_isInterface :
    searchItems.HasBalancedTexts ∧ IsBalanced (objectBody searchItems.paramsEntries).toList ∧
    searchItems.paramsDeclaration searchItems.names =
      "export interface CreateItemParams " ++ objectBody searchItems.paramsEntries := by
  obtain ⟨-, hentries, hoperations⟩ := ofBody_eq_interface_of_balanced
  have hbalanced : searchItems.HasBalancedTexts := by decide +kernel
  have hname : searchItems.names.paramsType = "CreateItemParams" := by decide +kernel
  have hbody := (hentries _ (isBalanced_of_mem_paramsEntries hbalanced)).1
  refine ⟨hbalanced, hbody, ?_⟩
  rw [(hoperations searchItems hbalanced).1, hname]
  rfl

end RestClient
