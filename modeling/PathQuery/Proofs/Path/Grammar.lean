import PathQuery.Path.Parser
import PathQuery.Proofs.Text.Runs

/-!
# The grammar of segments

This module says which texts are groups and which texts stand behind the key of a segment, without
saying how they are found. The rules are relations between a text and what it means. A group that
breaks off before its last field is a group as well, and means nothing.

A literal is written with backslashes. A backslash takes the character after it along, so that a
parenthesis after it does not end the group, and it disappears in front of a parenthesis or another
backslash. `Spells` says both at once. `spells_iff` takes the two apart: where the literal may end
(`Enclosed`), and what it stands for (`Literal.unescape`).

`Reads` is the grammar of a whole segment. The key is the shortest text that is not empty and has
groups and nothing else behind it, and the whole segment where there is none.
-/

set_option autoImplicit false

namespace PathQuery
namespace Grammar

open Text

/-! ## Fields -/

/-- White space between two fields. -/
abbrev Space (cs : List Char) : Prop := Run isFieldSpace cs

/-- The name of a property. -/
abbrev Name (cs : List Char) : Prop := Run isPropertyChar cs

/-- A word in any case of its letters. -/
def Keyword (word : String) (cs : List Char) : Prop :=
  cs.map Char.toLower = word.toList.map Char.toLower

/-! ## Literals -/

/-- A parenthesis put behind the text closes what the text stands in: read from the left, where a
backslash takes the next character along, the text has no closing parenthesis of its own and no
backslash at its end that has nothing to take. -/
inductive Enclosed : List Char → Prop where
  | nil : Enclosed []
  | taken (c : Char) {cs : List Char} : Enclosed cs → Enclosed ('\\' :: c :: cs)
  | plain {c : Char} {cs : List Char} : c ≠ '\\' → c ≠ ')' → Enclosed cs → Enclosed (c :: cs)

/-- How a literal is written, and the text it stands for. -/
inductive Spells : List Char → List Char → Prop where
  | nil : Spells [] []
  | escaped {c : Char} {cs text : List Char} :
      isProtected c → Spells cs text → Spells ('\\' :: c :: cs) (c :: text)
  | kept {c : Char} {cs text : List Char} :
      ¬ isProtected c → Spells cs text → Spells ('\\' :: c :: cs) ('\\' :: c :: text)
  | plain {c : Char} {cs text : List Char} :
      c ≠ '\\' → c ≠ ')' → Spells cs text → Spells (c :: cs) (c :: text)

/-! ## Groups -/

/-- What stands between the keyword of a filter and the end of its group, and the filter that it
makes. The fields may break off at five places. -/
inductive FilterBody (search : Search) : List Char → Option Filter → Prop where
  | complete {space₁ property space₂ word space₃ literal text : List Char} {rule : Rule} :
      Space space₁ → Name property → Space space₂ → Keyword rule.word word → Space space₃ →
      Stops isFieldSpace literal → Spells literal text →
      FilterBody search (space₁ ++ (property ++ (space₂ ++ (word ++ (space₃ ++ literal)))))
        (some ⟨search, String.ofList property, rule, .ofText (String.ofList text)⟩)
  | nothing : FilterBody search [] none
  | space {space₁ : List Char} : Space space₁ → FilterBody search space₁ none
  | property {space₁ property : List Char} : Space space₁ → Name property →
      FilterBody search (space₁ ++ property) none
  | propertySpace {space₁ property space₂ : List Char} :
      Space space₁ → Name property → Space space₂ →
      FilterBody search (space₁ ++ (property ++ space₂)) none
  | rule {space₁ property space₂ word : List Char} {rule : Rule} :
      Space space₁ → Name property → Space space₂ → Keyword rule.word word →
      FilterBody search (space₁ ++ (property ++ (space₂ ++ word))) none

/-- What stands between the keyword of a projection and the end of its group, and the property. -/
inductive ProjectionBody : List Char → Option String → Prop where
  | complete {space property : List Char} : Space space → Name property →
      ProjectionBody (space ++ property) (some (String.ofList property))
  | nothing : ProjectionBody [] none
  | space {space : List Char} : Space space → ProjectionBody space none

/-- The text of a group with a keyword and what follows it. -/
def groupText (keyword body : List Char) : List Char := '(' :: (keyword ++ (body ++ [')']))

/-- The text of a filter, and the filter if the group is complete. -/
inductive FilterGroup : List Char → Option Filter → Prop where
  | mk {search : Search} {keyword body : List Char} {filter : Option Filter} :
      Keyword search.word keyword → FilterBody search body filter →
      FilterGroup (groupText keyword body) filter

/-- The text of a projection, and its property if the group is complete. -/
inductive ProjectionGroup : List Char → Option String → Prop where
  | mk {keyword body : List Char} {property : Option String} :
      Keyword "map" keyword → ProjectionBody body property →
      ProjectionGroup (groupText keyword body) property

/-- The groups behind a key: a filter, a projection, or a filter and then a projection. -/
inductive Groups : List Char → Option Filter → Option String → Prop where
  | filter {text : List Char} {filter : Option Filter} :
      FilterGroup text filter → Groups text filter none
  | projection {text : List Char} {property : Option String} :
      ProjectionGroup text property → Groups text none property
  | both {text₁ text₂ : List Char} {filter : Option Filter} {property : Option String} :
      FilterGroup text₁ filter → ProjectionGroup text₂ property →
      Groups (text₁ ++ text₂) filter property

/-! ## Segments -/

/-- The text is a key that is not empty, with groups and nothing else behind it. -/
structure Split (text key : List Char) (filter : Option Filter) (property : Option String) :
    Prop where
  ne_nil : key ≠ []
  groups : ∃ tail, text = key ++ tail ∧ Groups tail filter property

/-- The segment that a text is read as. -/
inductive Reads (text : List Char) : Segment → Prop where
  | split {key : List Char} {filter : Option Filter} {property : Option String} :
      Split text key filter property →
      (∀ key' filter' property', Split text key' filter' property' → key.length ≤ key'.length) →
      Reads text ⟨String.ofList key, filter, property⟩
  | key : (∀ key filter property, ¬ Split text key filter property) →
      Reads text (.ofKey (String.ofList text))

/-! ## Enclosed texts -/

/-- The text has no backslash and no closing parenthesis. -/
def Plain (cs : List Char) : Prop := ∀ c ∈ cs, c ≠ '\\' ∧ c ≠ ')'

/-- A plain text in front makes no difference. -/
theorem Plain.enclosed_append_iff {cs : List Char} (plain : Plain cs) (ds : List Char) :
    Enclosed (cs ++ ds) ↔ Enclosed ds := by
  induction cs with
  | nil => rfl
  | cons c cs ih =>
      have ih := ih fun d hd => plain d (List.mem_cons_of_mem c hd)
      obtain ⟨backslash, parenthesis⟩ := plain c (by simp)
      rw [← ih, List.cons_append]
      generalize cs ++ ds = rest
      constructor
      · intro enclosed
        cases enclosed with
        | taken => exact absurd rfl backslash
        | plain _ _ rest => exact rest
      · exact .plain backslash parenthesis

theorem Plain.enclosed {cs : List Char} (plain : Plain cs) : Enclosed cs := by
  simpa using (plain.enclosed_append_iff []).mpr .nil

/-- A written literal is enclosed, and stands for what is left when the backslashes before
protected characters are taken away. -/
theorem spells_iff {cs text : List Char} :
    Spells cs text ↔ Enclosed cs ∧ Literal.unescape cs = text := by
  constructor
  · intro spells
    induction spells with
    | nil => exact ⟨.nil, rfl⟩
    | @escaped c _ _ h _ ih =>
        obtain ⟨enclosed, rfl⟩ := ih
        exact ⟨.taken c enclosed, by simp [Literal.unescape, h]⟩
    | @kept c cs _ h _ ih =>
        obtain ⟨enclosed, rfl⟩ := ih
        refine ⟨.taken c enclosed, ?_⟩
        rw [Literal.unescape, if_neg (by simp [h]),
          Literal.unescape_cons (ne_backslash_of_not_isProtected h)]
    | plain backslash parenthesis _ ih =>
        obtain ⟨enclosed, rfl⟩ := ih
        exact ⟨.plain backslash parenthesis enclosed, Literal.unescape_cons backslash _⟩
  · rintro ⟨enclosed, rfl⟩
    induction enclosed with
    | nil => exact .nil
    | @taken c cs _ ih =>
        by_cases h : isProtected c
        · rw [Literal.unescape, if_pos ⟨rfl, h⟩]
          exact .escaped h ih
        · rw [Literal.unescape, if_neg (by simp [h]),
            Literal.unescape_cons (ne_backslash_of_not_isProtected h)]
          exact .kept h ih
    | plain backslash parenthesis _ ih =>
        rw [Literal.unescape_cons backslash]
        exact .plain backslash parenthesis ih

end Grammar
end PathQuery
