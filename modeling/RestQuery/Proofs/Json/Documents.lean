import RestQuery.Json.Document
import RestQuery.Proofs.Json.Tokens

/-!
# Written documents are read back

The machine that puts tokens together completes exactly one value with the
tokens of a document, whatever arrays and objects are open around it. Together
with the pass that cuts the tokens, reading a written document gives it back.
-/

namespace RestQuery
namespace Json

namespace Progress

/-- Tokens lead the machine from one place to another. -/
def Leads (tokens : List Token) (progress next : Progress) : Prop :=
  tokens.foldlM step? progress = some next

namespace Leads

variable {progress middle next : Progress} {first second : List Token}

theorem nil : Leads [] progress progress := rfl

theorem cons
    {token : Token}
    (step : progress.step? token = some middle)
    (leads : Leads first middle next) :
    Leads (token :: first) progress next := by
  rw [Leads, List.foldlM_cons, step]
  exact leads

theorem append
    (leadsFirst : Leads first progress middle)
    (leadsSecond : Leads second middle next) :
    Leads (first ++ second) progress next := by
  rw [Leads, List.foldlM_append, leadsFirst]
  exact leadsSecond

end Leads

/-- The members that were read are the members that were written. -/
theorem members?_map (members : List (String × Json)) :
    members? (members.map fun member => (some member.1, member.2)) = some members := by
  induction members with
  | nil => rfl
  | cons member rest inductionHypothesis =>
      rw [List.map_cons, members?, inductionHypothesis, Option.map_some]

/-- Behind an opening bracket a value starts the items of an array. -/
theorem step?_inArray
    {token : Token}
    (value : token ≠ .closeArray)
    (stack : List Frame) :
    (inArray stack).step? token = (beforeValue (.array [] :: stack)).step? token := by
  cases token <;> first | rfl | exact absurd rfl value

end Progress

open Progress

/-- No value starts with the end of an array. -/
theorem exists_tokens_eq_cons (json : Json) :
    ∃ first rest, json.tokens = first :: rest ∧ first ≠ .closeArray := by
  match json with
  | null => exact ⟨_, _, rfl, by decide⟩
  | bool value => exact ⟨_, _, rfl, by simp⟩
  | number literal => exact ⟨_, _, rfl, by simp⟩
  | text value => exact ⟨_, _, rfl, by simp⟩
  | unreadable => exact ⟨_, _, rfl, by decide⟩
  | array [] => exact ⟨_, _, rfl, by decide⟩
  | array (item :: items) => exact ⟨_, _, rfl, by decide⟩
  | object [] => exact ⟨_, _, rfl, by decide⟩
  | object (member :: members) => exact ⟨_, _, rfl, by decide⟩

/-- The first item of an array is read like one behind a comma. -/
theorem leads_inArray
    {json : Json}
    {stack : List Frame}
    {next : Progress}
    (leads : Leads json.tokens (beforeValue (.array [] :: stack)) next) :
    Leads json.tokens (inArray stack) next := by
  obtain ⟨first, rest, shape, value⟩ := exists_tokens_eq_cons json
  rw [shape, Leads, List.foldlM_cons] at leads ⊢
  rwa [step?_inArray value]

/-- The members of an object as the machine keeps them, in reverse. -/
def keyed (members : List (String × Json)) : List (Option String × Json) :=
  (members.map fun member => (some member.1, member.2)).reverse

theorem keyed_cons
    (key : String)
    (value : Json)
    (members : List (String × Json)) :
    keyed ((key, value) :: members) = keyed members ++ [(some key, value)] := by
  rw [keyed, List.map_cons, List.reverse_cons]
  rfl

/-- The end of an array completes it. -/
theorem leads_closeArray
    (item : Json)
    (items : List Json)
    (stack : List Frame) :
    Leads [.closeArray] (behindValue (.array (items.reverse ++ [item])) stack)
      (complete (.array (item :: items)) stack) := by
  refine .cons ?_ .nil
  rw [step?, List.reverse_append, List.reverse_reverse, List.reverse_singleton,
    List.singleton_append]

/-- The end of an object completes it. -/
theorem leads_closeObject
    (members : List (String × Json))
    (stack : List Frame) :
    Leads [.closeObject] (behindValue (.object (keyed members) none) stack)
      (complete (.object members) stack) := by
  refine .cons ?_ .nil
  rw [step?, completeObject, keyed, List.reverse_reverse, members?_map]

mutual

/-- The tokens of a document complete one value. -/
theorem leads_tokens :
    ∀ json : Json, json.Legible → ∀ stack,
      Leads json.tokens (beforeValue stack) (complete json stack)
  | null, _, _ => rfl
  | bool _, _, _ => rfl
  | number _, _, _ => rfl
  | text _, _, _ => rfl
  | array [], _, _ => rfl
  | array (item :: items), legible, stack => by
      have first := leads_inArray (leads_tokens item legible.1 (.array [] :: stack))
      have further := leads_itemsTokens items legible.2 [item] stack
      exact .cons rfl ((first.append further).append (leads_closeArray item items stack))
  | object [], _, _ => rfl
  | object ((key, value) :: members), legible, stack => by
      have first := leads_tokens value legible.1 (.object [] (some key) :: stack)
      have further := leads_membersTokens members legible.2 [(some key, value)] stack
      have closing := leads_closeObject ((key, value) :: members) stack
      rw [keyed_cons] at closing
      exact .cons rfl (.cons rfl (.cons rfl ((first.append further).append closing)))

/-- The tokens of further items put them behind the ones before. -/
theorem leads_itemsTokens :
    ∀ items : List Json, LegibleItems items → ∀ before stack,
      Leads (itemsTokens items) (behindValue (.array before) stack)
        (behindValue (.array (items.reverse ++ before)) stack)
  | [], _, _, _ => rfl
  | item :: items, legible, before, stack => by
      have first := leads_tokens item legible.1 (.array before :: stack)
      have further := leads_itemsTokens items legible.2 (item :: before) stack
      rw [List.reverse_cons, List.append_assoc, List.singleton_append]
      exact .cons rfl (first.append further)

/-- The tokens of further members put them behind the ones before. -/
theorem leads_membersTokens :
    ∀ members : List (String × Json), LegibleMembers members → ∀ before stack,
      Leads (membersTokens members) (behindValue (.object before none) stack)
        (behindValue (.object (keyed members ++ before) none) stack)
  | [], _, _, _ => rfl
  | (key, value) :: members, legible, before, stack => by
      have first := leads_tokens value legible.1 (.object before (some key) :: stack)
      have further := leads_membersTokens members legible.2 ((some key, value) :: before) stack
      rw [keyed_cons, List.append_assoc, List.singleton_append]
      exact .cons rfl (.cons rfl (.cons rfl (first.append further)))

end

/-- A written document is read back. -/
theorem read?_chars
    {json : Json}
    (legible : json.Legible) :
    read? json.chars = some json := by
  rw [read?, tokens?_chars legible, Option.bind_some, ofTokens?, leads_tokens json legible []]
  rfl

end Json
end RestQuery
