import Webhook.Policy.PodAnnotations
import Webhook.Proofs.Json.Values

/-!
# Requirements on annotations

A policy allows a workload when its annotations *meet* every requirement that the policy keeps
(`PodAnnotations.toPolicy_eq_allow_iff`).  A policy that is set up from a list keeps one
requirement for each key, the last one of the list (`PodAnnotations.mem_required_ofList`).

So no requirement of the list is lost exactly when the last ones are enough: values that pass the
last test of every key pass all tests (`LastDecides`).  When every key is there once, they do.
-/

namespace Webhook

open Json (Value)
open Resource (Schema)

namespace PodAnnotations

/-! ## Meeting requirements -/

/-- The key of a requirement is among the annotations, with a value that passes its test. -/
def Meets (annotations : List (String × String)) (r : String × Validator) : Prop :=
  ∃ value, annotations.lookup r.1 = some value ∧ r.2 value = true

theorem shortcoming?_eq_none {annotations : List (String × String)} {r : String × Validator} :
    shortcoming? annotations r.1 r.2 = none ↔ Meets annotations r := by
  rw [shortcoming?, Meets]
  cases h : annotations.lookup r.1 with
  | none => simp
  | some value => cases hvalue : r.2 value <;> simp [hvalue]

theorem shortcomings_eq_nil {policy : PodAnnotations} {annotations : List (String × String)} :
    policy.shortcomings annotations = [] ↔ ∀ r ∈ policy.required, Meets annotations r := by
  rw [shortcomings, List.filterMap_eq_nil_iff]
  simp only [Option.map_eq_none_iff, shortcoming?_eq_none]

theorem judgeAnnotations_eq_allow {policy : PodAnnotations} (kind : String)
    {annotations : List (String × String)} :
    policy.judgeAnnotations kind annotations = .allow ↔
      ∀ r ∈ policy.required, Meets annotations r := by
  rw [← shortcomings_eq_nil, judgeAnnotations]
  cases policy.shortcomings annotations with
  | nil => simp
  | cons s rest => simp [Verdict.denial]

/-- What a policy goes by when a request is about a workload and not exempt. -/
theorem judge_eq {policy : PodAnnotations} {request : Request} {w : Workload} {object : Value}
    (hw : Workload.ofRequest? request = some w) (hexempt : policy.exempt.covers request = false)
    (hobject : request.readObject w.schema = .ok (some object)) :
    policy.judge request = .ok (policy.judgeAnnotations w.kind (w.annotations object)) := by
  rw [judge, hw]
  simp only [hexempt, Bool.false_eq_true, if_false, hobject]
  rfl

/-- The verdict on a workload that is not exempt and whose object can be read. -/
theorem toPolicy_eq_allow_iff {policy : PodAnnotations} {request : Request} {w : Workload}
    {object : Value} (hw : Workload.ofRequest? request = some w)
    (hexempt : policy.exempt.covers request = false)
    (hobject : request.readObject w.schema = .ok (some object)) :
    policy.toPolicy request = .verdict .allow ↔
      ∀ r ∈ policy.required, Meets (w.annotations object) r := by
  rw [← judgeAnnotations_eq_allow w.kind, toPolicy, Policy.ofRule, judge_eq hw hexempt hobject]
  exact ⟨Outcome.verdict.inj, congrArg Outcome.verdict⟩

/-! ## Requirements from a list -/

/-- Of the requirements for one key, the policy keeps the last one. -/
theorem mem_required_ofList {exempt : Exemption} {required : List (String × Validator)}
    {r : String × Validator} :
    r ∈ (ofList exempt required).required ↔ required.reverse.lookup r.1 = some r.2 :=
  Json.mem_sortMembers_iff

theorem required_ofList_pair (exempt : Exemption) (key : String) (first second : Validator) :
    (ofList exempt [(key, first), (key, second)]).required = [(key, second)] := by
  simp [ofList, Json.sortMembers, Json.insertMember]

/-- Values that pass the last test of every key pass all tests. -/
def LastDecides (required : List (String × Validator)) : Prop :=
  ∀ value : String → String,
    (∀ key accepts, required.reverse.lookup key = some accepts → accepts (value key) = true) →
    ∀ r ∈ required, r.2 (value r.1) = true

/-- Requirements for different keys do not get in each other's way. -/
theorem LastDecides.of_nodup {required : List (String × Validator)}
    (h : (required.map (·.1)).Nodup) : LastDecides required := by
  intro value hvalue r hr
  have hreverse : (required.reverse.map (·.1)).Nodup := by
    rw [List.map_reverse]
    exact List.pairwise_reverse.mpr (h.imp Ne.symm)
  exact hvalue r.1 r.2 (Json.lookup_of_nodup hreverse (List.mem_reverse.mpr hr))

/-- Every key of a list has a last requirement. -/
theorem exists_last {required : List (String × Validator)} {r : String × Validator}
    (hr : r ∈ required) : ∃ accepts, required.reverse.lookup r.1 = some accepts := by
  cases h : required.reverse.lookup r.1 with
  | some accepts => exact ⟨accepts, rfl⟩
  | none =>
      have hne := List.lookup_eq_none_iff.mp h r (List.mem_reverse.mpr hr)
      simp at hne

/-- The annotations that give every key of a list the value that is chosen for it. -/
def chosen (required : List (String × Validator)) (value : String → String) :
    List (String × String) :=
  Json.sortMembers (required.map fun r => (r.1, value r.1))

theorem lookup_chosen {required : List (String × Validator)} (value : String → String)
    {r : String × Validator} (hr : r ∈ required) :
    (chosen required value).lookup r.1 = some (value r.1) := by
  have hvalues : ∀ rs : List (String × Validator), r ∈ rs →
      (rs.map fun r => (r.1, value r.1)).lookup r.1 = some (value r.1) := by
    intro rs
    induction rs with
    | nil => intro hr; cases hr
    | cons first rest ih =>
        intro hr
        rw [List.map_cons, Json.lookup_member]
        by_cases hkey : r.1 = first.1
        · rw [if_pos hkey, hkey]
        · rw [if_neg hkey]
          rcases List.mem_cons.mp hr with rfl | hr
          · exact absurd rfl hkey
          · exact ih hr
  rw [chosen, Json.lookup_sortMembers, ← List.map_reverse]
  exact hvalues _ (List.mem_reverse.mpr hr)

/-- A policy from a list asks for all of it exactly when the last requirements are enough. -/
theorem lastDecides_iff (exempt : Exemption) {required : List (String × Validator)} :
    LastDecides required ↔ ∀ annotations,
      (∀ r ∈ (ofList exempt required).required, Meets annotations r) →
      ∀ r ∈ required, Meets annotations r := by
  constructor
  · intro hlast annotations hmeets r hr
    have hvalue : ∀ key accepts, required.reverse.lookup key = some accepts →
        accepts ((annotations.lookup key).getD "") = true := by
      intro key accepts hkey
      obtain ⟨value, hlookup, haccepts⟩ := hmeets (key, accepts) (mem_required_ofList.mpr hkey)
      rw [hlookup]
      exact haccepts
    obtain ⟨accepts, hkey⟩ := exists_last hr
    obtain ⟨value, hlookup, -⟩ := hmeets (r.1, accepts) (mem_required_ofList.mpr hkey)
    have hr' := hlast (fun key => (annotations.lookup key).getD "") hvalue r hr
    rw [hlookup] at hr'
    exact ⟨value, hlookup, hr'⟩
  · intro h value hvalue r hr
    have hmeets : ∀ r ∈ (ofList exempt required).required, Meets (chosen required value) r := by
      intro r hr
      have hlast := mem_required_ofList.mp hr
      have hmem : r ∈ required := List.mem_reverse.mp (Json.mem_of_lookup hlast)
      exact ⟨value r.1, lookup_chosen value hmem, hvalue r.1 r.2 hlast⟩
    obtain ⟨value', hlookup, haccepts⟩ := h (chosen required value) hmeets r hr
    rw [lookup_chosen value hr] at hlookup
    exact Option.some.inj hlookup ▸ haccepts

end PodAnnotations

/-! ## Pods with given annotations -/

namespace Resource

/-- A check of every item passes exactly when each item passes. -/
theorem forM_eq_ok_iff {α ε : Type} {check : α → Except ε Unit} {items : List α} :
    items.forM check = .ok () ↔ ∀ item ∈ items, check item = .ok () := by
  induction items with
  | nil => exact iff_of_true rfl (List.forall_mem_nil _)
  | cons first rest ih =>
      rw [List.forall_mem_cons, ← ih]
      show (check first >>= fun _ => rest.forM check) = .ok () ↔ _
      cases check first with
      | error e => exact iff_of_false nofun nofun
      | ok u => exact ⟨fun h => ⟨rfl, h⟩, And.right⟩

/-- A table of texts. -/
def tableOf (texts : List (String × String)) : Value :=
  .object (texts.map fun t => (t.1, .string t.2))

theorem check_tableOf (texts : List (String × String)) :
    textTable.check (tableOf texts) = .ok () := by
  rw [textTable, tableOf, Schema.check]
  refine forM_eq_ok_iff.mpr fun m hm => ?_
  obtain ⟨t, -, rfl⟩ := List.mem_map.mp hm
  rw [Schema.check]

theorem textsAt_of_path? {path : List String} {v : Value} {texts : List (String × String)}
    (h : v.path? path = some (tableOf texts)) : v.textsAt path = texts := by
  rw [Value.textsAt, h]
  simp only [tableOf, List.filterMap_map]
  exact List.filterMap_some

/-- A pod that carries nothing but annotations. -/
def podWith (annotations : List (String × String)) : Value :=
  .object [("metadata", .object [("annotations", tableOf annotations)])]

theorem check_podWith (annotations : List (String × String)) :
    pod.check (podWith annotations) = .ok () := by
  have hmeta : objectMeta.check (.object [("annotations", tableOf annotations)]) = .ok () := by
    simp only [objectMeta, record, Schema.check]
    rw [forM_eq_ok_iff.mpr]
    · rfl
    · intro m hm
      rw [List.mem_singleton.mp hm]
      simp only [checkField, if_true, tableOf, checkNamed]
      exact check_tableOf annotations
  rw [pod, podWith, Schema.check]
  refine forM_eq_ok_iff.mpr fun m hm => ?_
  rw [List.mem_singleton.mp hm]
  simp only [checkField, if_true, checkNamed, hmeta]
  rfl

theorem annotations_podWith (annotations : List (String × String)) :
    Workload.pod.annotations (podWith annotations) = annotations :=
  textsAt_of_path? rfl

end Resource

/-- The request to create a pod that carries nothing but annotations. -/
def podCreation (ns : Option String) (annotations : List (String × String)) : Request where
  uid := ""
  kind := ⟨"", "v1", "Pod"⟩
  resource := ⟨"", "v1", "pods"⟩
  subResource := none
  requestKind := none
  requestResource := none
  requestSubResource := none
  name := none
  «namespace» := ns
  operation := .create
  userInfo := none
  object := some (Resource.podWith annotations)
  oldObject := none
  dryRun := none
  options := none

theorem ofRequest?_podCreation (ns : Option String) (annotations : List (String × String)) :
    Workload.ofRequest? (podCreation ns annotations) = some .pod := by
  rfl

theorem readObject_podCreation (ns : Option String) (annotations : List (String × String)) :
    (podCreation ns annotations).readObject Workload.pod.schema
      = .ok (some (Resource.podWith annotations)) := by
  have hobject : (podCreation ns annotations).object = some (Resource.podWith annotations) := rfl
  rw [Request.readObject, hobject]
  simp only [Workload.schema, Resource.check_podWith]

end Webhook
