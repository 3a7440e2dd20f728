/-
# Suggestions, each once

`map_suggestions`, `map_fallback_suggestions` and `_dedupe_suggestions` of
`apps/search-svc/app/services/result_mapper.py`: the options of the completion suggesters, or the
hits of a plain search, as one list of suggestions.

`_dedupe_suggestions` tracks an id and a text in one set, both in lower case.  So the list has no
two suggestions with one id or one text up to case, and what it leaves out while there is room is
not new up to case (`suggestions_deduped`).  The limit is checked after a suggestion is added:
it is at least one, as `AutocompleteParams` has it.
-/

import Mathlib.Data.List.Sort
import TopChoice.Lib.FirstOfEach
import TopChoice.Search.ListingSurvival

namespace TopChoice
namespace Search

open FirstOfEach

/-! ### The candidates -/

/-- A suggestion. -/
structure Suggestion where
  text : String
  type : String
  id : Option String
  slug : PyValue

/-- `SUGGESTION_SOURCES`: of each type the text field, the id field and the slug field. -/
def suggestionSources : List (String × String × String × String) :=
  [("property", "title_en", "id", "slug"),
    ("compound", "compoundName", "compoundId", "compoundSlug"),
    ("developer", "developerName", "developerId", "developerSlug"),
    ("area", "areaName", "areaId", "areaSlug")]

/-- `_suggestion_from_option`. -/
def suggestionFromOption (py : Python) (option : PyValue) (suggestionType : String) :
    Option Suggestion :=
  let source := (option.get "_source").or (.dict [])
  let (textField, idField, slugField) :=
    (suggestionSources.lookup suggestionType).getD ("title_en", "id", "slug")
  let text := strip (py.text (((option.get "text").or (source.get textField)).or (.str "")))
  if text = "" then none
  else
    let identifier := source.get idField
    let identifier :=
      if !identifier.truthy && suggestionType = "property" then option.get "_id" else identifier
    some ⟨text, suggestionType, if identifier.truthy then some (py.text identifier) else none,
      source.get slugField⟩

/-- The options of the suggester of a type. -/
def suggestionOptions (response : PyValue) (suggestionType : String) : List PyValue :=
  let suggest := (response.get "suggest").or (.dict [])
  ((suggest.get suggestionType).or (.list [])).elements.flatMap fun block =>
    (((block.or (.dict [])).get "options").or (.list [])).elements

/-- `collected`: the suggestions with their scores; `none` when a score is no number. -/
def collectedSuggestions (py : Python) (response : PyValue) (types : List String) :
    Option (List (ℚ × Suggestion)) :=
  let types := if types = [] then suggestionSources.map Prod.fst else types
  let entries := types.flatMap fun suggestionType =>
    (suggestionOptions response suggestionType).filterMap fun option =>
      (suggestionFromOption py option suggestionType).map fun entry =>
        (py.asFloat ((option.getOr "_score" (.num 0)).or (.num 0)), entry)
  entries.mapM fun item => item.1.map fun score => (score, item.2)

/-- The candidates of `map_suggestions`, the highest score first. -/
def rankedSuggestions (py : Python) (response : PyValue) (types : List String) :
    Option (List Suggestion) :=
  (collectedSuggestions py response types).map fun collected =>
    (collected.insertionSort fun a b => b.1 ≤ a.1).map Prod.snd

/-- The candidates of `map_fallback_suggestions`. -/
def fallbackSuggestions (py : Python) (response : PyValue) : List Suggestion :=
  ((((response.get "hits").or (.dict [])).get "hits").or (.list [])).elements.filterMap fun hit =>
    let source := (hit.get "_source").or (.dict [])
    let text := (source.get "title_en").or (source.get "title_ar")
    if text.truthy then
      some ⟨py.text text, "property",
        some (py.text (((source.get "id").or (hit.get "_id")).or (.str ""))), source.get "slug"⟩
    else none

/-! ### The mapper -/

/-- `key` of `_dedupe_suggestions`: the type and the id, or the text of a suggestion without. -/
def Suggestion.key (py : Python) (entry : Suggestion) : String × String :=
  (entry.type, py.lower ((entry.id.filter fun id => id ≠ "").getD entry.text))

/-- `text_key`. -/
def Suggestion.textKey (py : Python) (entry : Suggestion) : String × String :=
  (entry.type, py.lower (strip entry.text))

/-- The loop of `_dedupe_suggestions`; `found` is `len(unique)`. -/
def dedupeSuggestionsFrom (py : Python) (limit : ℤ) (seen : List (String × String)) (found : ℕ) :
    List Suggestion → List Suggestion
  | [] => []
  | entry :: entries =>
      let key := entry.key py
      let textKey := entry.textKey py
      if key ∈ seen ∨ textKey ∈ seen then dedupeSuggestionsFrom py limit seen found entries
      else entry ::
        if limit ≤ found + 1 then []
        else dedupeSuggestionsFrom py limit (key :: textKey :: seen) (found + 1) entries

/-- `_dedupe_suggestions`. -/
def dedupeSuggestions (py : Python) (limit : ℤ) (entries : List Suggestion) : List Suggestion :=
  dedupeSuggestionsFrom py limit [] 0 entries

/-- `map_suggestions`. -/
def mapSuggestions (py : Python) (response : PyValue) (limit : ℤ) (types : List String) :
    Option (List Suggestion) :=
  (rankedSuggestions py response types).map (dedupeSuggestions py limit)

/-- `map_fallback_suggestions`. -/
def mapFallbackSuggestions (py : Python) (response : PyValue) (limit : ℤ) : List Suggestion :=
  dedupeSuggestions py limit (fallbackSuggestions py response)

/-! ### Each once -/

/-- What a list of suggestions is to the candidates: within the limit, no two the same, in their
order, and the first of each: what is left out while there is room is near one that is kept. -/
structure Deduped (same near : Suggestion → Suggestion → Prop) (limit : ℤ)
    (candidates result : List Suggestion) : Prop where
  bounded : result.length ≤ limit
  distinct : result.Pairwise fun a b => ¬same a b
  ordered : result.Sublist candidates
  picks : Picks same near limit [] candidates result

/-- One type, and one id or one text in lower case. -/
def Duplicates (py : Python) (a b : Suggestion) : Prop :=
  a.type = b.type ∧
    ((∃ id, id ≠ "" ∧ a.id = some id ∧ b.id = some id) ∨ py.lower a.text = py.lower b.text)

/-- One type, and one id or one text, both in lower case and the text stripped. -/
def Alike (py : Python) (a b : Suggestion) : Prop :=
  a.type = b.type ∧
    ((∃ id id', id ≠ "" ∧ id' ≠ "" ∧ a.id = some id ∧ b.id = some id' ∧
      py.lower id = py.lower id') ∨ py.lower (strip a.text) = py.lower (strip b.text))

/-- The keys a suggestion is remembered by. -/
def Suggestion.keys (py : Python) (entry : Suggestion) : List (String × String) :=
  [entry.key py, entry.textKey py]

/-- An id or a text of the one is an id or a text of the other. -/
def Near (py : Python) : Suggestion → Suggestion → Prop := ShareKey (Suggestion.keys py)

theorem Suggestion.key_of_id (py : Python) {entry : Suggestion} {id : String}
    (hid : entry.id = some id) (hne : id ≠ "") : entry.key py = (entry.type, py.lower id) := by
  have hfilter : entry.id.filter (fun id => id ≠ "") = some id := by
    rw [hid, Option.filter_some, if_pos (by simpa using hne)]
  rw [Suggestion.key, hfilter, Option.getD_some]

theorem near_of_alike {py : Python} {a b : Suggestion} (h : Alike py a b) : Near py a b := by
  obtain ⟨htype, ⟨id, id', hne, hne', hid, hid', hlower⟩ | htext⟩ := h
  · refine ⟨a.key py, by simp [Suggestion.keys], ?_⟩
    have hkey : a.key py = b.key py := by
      rw [Suggestion.key_of_id py hid hne, Suggestion.key_of_id py hid' hne', htype, hlower]
    simp [Suggestion.keys, hkey]
  · refine ⟨a.textKey py, by simp [Suggestion.keys], ?_⟩
    have hkey : a.textKey py = b.textKey py := by
      rw [Suggestion.textKey, Suggestion.textKey, htype, htext]
    simp [Suggestion.keys, hkey]

theorem dedupeSuggestionsFrom_eq (py : Python) (limit : ℤ) (entries : List Suggestion) :
    ∀ (seen : List (String × String)) (found : ℕ),
      dedupeSuggestionsFrom py limit seen found entries =
        pickFrom (Suggestion.keys py) limit seen found entries := by
  induction entries with
  | nil => exact fun _ _ => rfl
  | cons entry entries ih =>
    intro seen found
    rw [dedupeSuggestionsFrom, pickFrom, ih, ih]
    simp [Suggestion.keys]

/-- **The loop, once the limit is at least one.** -/
theorem deduped_dedupeSuggestions (py : Python) {limit : ℤ} (hlimit : 1 ≤ limit)
    (candidates : List Suggestion) :
    Deduped (Alike py) (Near py) limit candidates (dedupeSuggestions py limit candidates) := by
  have hpicks : Picks (Near py) (Near py) limit [] candidates
      (dedupeSuggestions py limit candidates) := by
    rw [dedupeSuggestions, dedupeSuggestionsFrom_eq]
    exact picks_pickFrom _ rfl (by omega) (by simp)
  have hpicks := hpicks.mono (fun _ _ => near_of_alike) fun _ _ h => h
  have hlength := hpicks.length_le (by simpa using by omega)
  exact ⟨by simpa using hlength, hpicks.pairwise.2, hpicks.sublist, hpicks⟩

/-- **Suggestions are de-duplicated and bounded.**  For a limit of at least one, of every list of
candidates, those of the completion suggesters and those of the plain search among them. -/
theorem suggestions_deduped (py : Python) (limit : ℤ) (hlimit : 1 ≤ limit) :
    (∀ candidates, Deduped (Alike py) (Near py) limit candidates
      (dedupeSuggestions py limit candidates)) ∧
    (∀ response types, ∀ result ∈ mapSuggestions py response limit types,
      ∃ candidates ∈ rankedSuggestions py response types,
        Deduped (Alike py) (Near py) limit candidates result) ∧
    ∀ response, Deduped (Alike py) (Near py) limit (fallbackSuggestions py response)
      (mapFallbackSuggestions py response limit) := by
  refine ⟨deduped_dedupeSuggestions py hlimit, fun response types result hresult => ?_,
    fun response => deduped_dedupeSuggestions py hlimit _⟩
  obtain ⟨candidates, hcandidates, rfl⟩ := Option.map_eq_some_iff.1 hresult
  exact ⟨candidates, hcandidates, deduped_dedupeSuggestions py hlimit candidates⟩

/-- A hit of the plain search. -/
def demoHit (id title : String) : PyValue :=
  .dict [("_source", .dict [("id", .str id), ("title_en", .str title)])]

/-- A response with these hits. -/
def demoHits (hits : List PyValue) : PyValue := .dict [("hits", .dict [("hits", .list hits)])]

/-- Two hits of one title up to case, and room for ten suggestions. -/
theorem suggestions_deduped_demo :
    Deduped (Alike demoPython) (Near demoPython) 10
      (fallbackSuggestions demoPython (demoHits [demoHit "a1" "Zed", demoHit "b2" "ZED"]))
      (mapFallbackSuggestions demoPython (demoHits [demoHit "a1" "Zed", demoHit "b2" "ZED"]) 10) :=
  (suggestions_deduped demoPython 10 (by decide)).2.2 _

/-- What a hit is as a suggestion. -/
def demoSuggestion (id title : String) : Suggestion := ⟨title, "property", some id, .null⟩

/-- A second hit that duplicates nothing and is left out. -/
theorem not_deduped_second (id id' title title' : String) (hid : id ≠ id')
    (htitle : demoPython.lower title ≠ demoPython.lower title') :
    ¬Deduped (Duplicates demoPython) (Duplicates demoPython) 10
      [demoSuggestion id title, demoSuggestion id' title'] [demoSuggestion id title] := by
  intro h
  obtain ⟨-, ⟨i, -, hi, hi'⟩ | htext⟩ := h.picks.near_of_second (by decide)
  · exact hid ((Option.some.inj hi).trans (Option.some.inj hi').symm)
  · exact htitle htext

/-- Four responses of which the suggestions are not as said of exact ids and texts: a limit of
zero; ids that differ in case; an id that is the text of another; texts that differ in white
space. -/
theorem suggestions_by_case :
    ¬Deduped (Duplicates demoPython) (Duplicates demoPython) 0
        (fallbackSuggestions demoPython (demoHits [demoHit "a1" "Zed"]))
        (mapFallbackSuggestions demoPython (demoHits [demoHit "a1" "Zed"]) 0) ∧
      ¬Deduped (Duplicates demoPython) (Duplicates demoPython) 10
        (fallbackSuggestions demoPython (demoHits [demoHit "A1" "Zed", demoHit "a1" "Ora"]))
        (mapFallbackSuggestions demoPython (demoHits [demoHit "A1" "Zed", demoHit "a1" "Ora"])
          10) ∧
      ¬Deduped (Duplicates demoPython) (Duplicates demoPython) 10
        (fallbackSuggestions demoPython (demoHits [demoHit "a1" "Zed", demoHit "zed" "Ora"]))
        (mapFallbackSuggestions demoPython (demoHits [demoHit "a1" "Zed", demoHit "zed" "Ora"])
          10) ∧
      ¬Deduped (Duplicates demoPython) (Duplicates demoPython) 10
        (fallbackSuggestions demoPython (demoHits [demoHit "a1" "Zed", demoHit "b2" "Zed "]))
        (mapFallbackSuggestions demoPython (demoHits [demoHit "a1" "Zed", demoHit "b2" "Zed "])
          10) := by
  refine ⟨fun h => ?_, ?_, ?_, ?_⟩
  · have hlength : ((mapFallbackSuggestions demoPython (demoHits [demoHit "a1" "Zed"])
        0).length : ℤ) = 1 := rfl
    exact absurd (hlength ▸ h.bounded) (by decide)
  · exact not_deduped_second "A1" "a1" "Zed" "Ora" (by decide) (by decide)
  · exact not_deduped_second "a1" "zed" "Zed" "Ora" (by decide) (by decide)
  · exact not_deduped_second "a1" "b2" "Zed" "Zed " (by decide) (by decide)

end Search
end TopChoice
