import Mathlib.Data.List.Basic
import IdentCase.Engine

/-!
# Layers of settings as one history

Tables are added to a registry when it is made and again by each layer of settings. All of these
additions form one history, in which a table lives until a later one takes its name. An engine works
with the last living table that answers to the language asked for, and whatever else it is made of
or fails for is read off the layers without merging them.
-/

set_option autoImplicit false

namespace IdentCase

namespace Settings

def lastSet {α : Type} (field : Settings → Option α) (layers : List Settings) : Option α :=
  (layers.filterMap field).getLast?

theorem lastSet_cons {α : Type} (field : Settings → Option α) (layer : Settings)
    (layers : List Settings) :
    lastSet field (layer :: layers) = (lastSet field layers).or (field layer) := by
  unfold lastSet
  cases h : field layer with
  | none => simp [h]
  | some a => simp [h, List.getLast?_cons, Option.or_some]

theorem merged_last {α : Type} (field : Settings → Option α)
    (h : ∀ base layer : Settings, field (base.merge layer) = (field layer).or (field base))
    (layers : List Settings) (base : Settings) :
    field (layers.foldl merge base) = (lastSet field layers).or (field base) := by
  induction layers generalizing base with
  | nil => rfl
  | cons layer layers ih => rw [List.foldl_cons, ih, h, lastSet_cons, Option.or_assoc]

theorem merged_list {α : Type} (field : Settings → List α)
    (h : ∀ base layer : Settings, field (base.merge layer) = field base ++ field layer)
    (layers : List Settings) (base : Settings) :
    field (layers.foldl merge base) = field base ++ layers.flatMap field := by
  induction layers generalizing base with
  | nil => simp
  | cons layer layers ih => rw [List.foldl_cons, ih, h, List.flatMap_cons, List.append_assoc]

/-- Of each value the last one set counts, and of each list all entries in order. -/
theorem mergeAll_eq (layers : List Settings) :
    mergeAll layers = {
      convention := lastSet Settings.convention layers
      language := lastSet Settings.language layers
      ignore := layers.flatMap Settings.ignore
      quoteCarry := lastSet Settings.quoteCarry layers
      languages := layers.flatMap Settings.languages } := by
  have hconvention := merged_last Settings.convention (fun _ _ => rfl) layers empty
  have hlanguage := merged_last Settings.language (fun _ _ => rfl) layers empty
  have hignore := merged_list Settings.ignore (fun _ _ => rfl) layers empty
  have hcarry := merged_last Settings.quoteCarry (fun _ _ => rfl) layers empty
  have hlanguages := merged_list Settings.languages (fun _ _ => rfl) layers empty
  simp only [empty, Option.or_none, List.nil_append] at *
  rw [mergeAll, ← hconvention, ← hlanguage, ← hignore, ← hcarry, ← hlanguages]
  rfl

end Settings

namespace Registry

inductive Reachable : Registry → Prop
  | empty : Reachable .empty
  | builtin : Reachable .builtin
  | insertMany (r : Registry) (ls : List Language) (h : Reachable r) : Reachable (r.insertMany ls)

def live : List Language → List Language
  | [] => []
  | l :: later => if later.any (sameName l.name ·.name) then live later else l :: live later

theorem live_add (history : List Language) (l : Language) :
    live (history ++ [l]) =
      (live history).filter (fun old => !sameName old.name l.name) ++ [l] := by
  induction history with
  | nil => rfl
  | cons old history ih =>
    rw [List.cons_append, live, live, ih, List.any_append, List.any_cons, List.any_nil,
      Bool.or_false]
    by_cases hreplaced : history.any (sameName old.name ·.name) = true
    · simp [hreplaced]
    · by_cases hsame : sameName old.name l.name = true
      · simp [hreplaced, hsame]
      · simp [hreplaced, hsame]

/-- Adding tables goes on with the history of the registry. -/
theorem insertMany_live (history ls : List Language) (r : Registry)
    (h : r.languages = live history) : (r.insertMany ls).languages = live (history ++ ls) := by
  induction ls generalizing r history with
  | nil => simpa [insertMany] using h
  | cons l ls ih =>
    have hinsert : (r.insert l).languages = live (history ++ [l]) := by
      rw [insert, live_add, h]
    have hrest := ih (history ++ [l]) (r.insert l) hinsert
    rw [List.append_assoc, List.singleton_append] at hrest
    exact hrest

theorem live_subset (history : List Language) : ∀ l ∈ live history, l ∈ history := by
  induction history with
  | nil => simp [live]
  | cons old history ih =>
    intro l hl
    rw [live] at hl
    split at hl
    · exact List.mem_cons_of_mem old (ih l hl)
    · rcases List.mem_cons.mp hl with rfl | hl
      · simp
      · exact List.mem_cons_of_mem old (ih l hl)

theorem live_twice (history : List Language) : live (live history) = live history := by
  induction history with
  | nil => rfl
  | cons old history ih =>
    by_cases hreplaced : history.any (sameName old.name ·.name) = true
    · simp [live, hreplaced, ih]
    · have hfree : (live history).any (sameName old.name ·.name) = false := by
        rw [List.any_eq_false]
        intro later hlater hsame
        exact hreplaced (List.any_eq_true.mpr ⟨later, live_subset history later hlater, hsame⟩)
      simp [live, hreplaced, hfree, ih]

theorem reachable_live (r : Registry) (h : r.Reachable) : r.languages = live r.languages := by
  induction h with
  | empty => rfl
  | builtin => rfl
  | insertMany r ls h ih => rw [insertMany_live r.languages ls r ih, live_twice]

theorem find?_eq_getLast? (r : Registry) (name : String) :
    r.find? name = (r.languages.filter (·.answersTo name)).getLast? := by
  rw [find?, ← List.head?_filter, List.filter_reverse, List.head?_reverse]

end Registry

namespace Engine
open Settings

def Fails (result : Except Fault Engine) (fault : Fault) (code : String) : Prop :=
  result = .error fault ∧ fault.code = code

theorem checkIgnore_eq (s : Settings) :
    s.checkIgnore = if "" ∈ s.ignore then .error .emptyIgnorePattern else .ok () := by
  have hany : s.ignore.any String.isEmpty = true ↔ "" ∈ s.ignore := by
    simp [List.any_eq_true, String.isEmpty_iff]
  simp only [checkIgnore, hany]

/-- The layers decide over an engine in this order: the convention has to be set and known, no
ignore pattern may be empty, the language has to be set and to name a living table of the history.
The engine then has the last such table, all ignore patterns and the last carry set. -/
theorem ofSettings_layers (registry : Registry) (hr : registry.Reachable)
    (layers : List Settings) :
    let result := ofSettings registry (mergeAll layers)
    let living := Registry.live (registry.languages ++ layers.flatMap Settings.languages)
    (lastSet Settings.convention layers = none →
      Fails result (.missingKey "convention" none) "config.missing_key") ∧
    ∀ style, lastSet Settings.convention layers = some style →
      (Convention.ofName? style = none →
        Fails result (.unknownConvention style) "config.invalid_value") ∧
      ∀ convention, Convention.ofName? style = some convention →
        ((∃ layer ∈ layers, "" ∈ layer.ignore) →
          Fails result .emptyIgnorePattern "config.invalid_value") ∧
        ((∀ layer ∈ layers, "" ∉ layer.ignore) →
          (lastSet Settings.language layers = none →
            Fails result (.missingKey "language" none) "config.missing_key") ∧
          ∀ name, lastSet Settings.language layers = some name →
            ((∀ l ∈ living, l.answersTo name = false) →
              Fails result (.languageNotFound name (living.map Language.name))
                "language.not_found") ∧
            ((∃ l ∈ living, l.answersTo name = true) →
              ∃ l e, (living.filter (·.answersTo name)).getLast? = some l ∧ result = .ok e ∧
                e.convention = convention ∧
                e.language = l.name ∧
                e.filter.keywords = l.keywords.toList.map String.toList ∧
                e.filter.ignore = layers.flatMap Settings.ignore ∧
                e.filter.accepts = IgnorePattern.accepts ∧
                e.delimiters.marks = l.delimiters.toList.filter (· ≠ '"') ∧
                (∀ c, e.delimiters.contains c = true ↔
                  Text.isBlank c = true ∨ c ∈ l.delimiters.toList ∧ c ≠ '"') ∧
                e.carry = (lastSet Settings.quoteCarry layers).getD .file)) := by
  intro result living
  have hlanguages : (registry.insertMany (layers.flatMap Settings.languages)).languages = living :=
    Registry.insertMany_live registry.languages _ registry (Registry.reachable_live registry hr)
  have hempty : "" ∈ layers.flatMap Settings.ignore ↔ ∃ layer ∈ layers, "" ∈ layer.ignore :=
    List.mem_flatMap
  have hresult : result = ofSettings registry _ :=
    congrArg (ofSettings registry) (mergeAll_eq layers)
  simp only [ofSettings, requiredConvention, checkIgnore_eq, requiredLanguage, Registry.resolve,
    Registry.find?_eq_getLast?, Registry.names, effectiveCarry, hlanguages, hempty] at hresult
  refine ⟨fun hunset => ?_, fun style hstyle => ⟨fun hunknown => ?_, fun convention hknown =>
    ⟨fun hpattern => ?_, fun hpatterns => ?_⟩⟩⟩
  · rw [hunset] at hresult
    exact ⟨hresult, rfl⟩
  · simp only [hstyle, hunknown] at hresult
    exact ⟨hresult, rfl⟩
  · simp only [hstyle, hknown, if_pos hpattern] at hresult
    exact ⟨hresult, rfl⟩
  · have hclean : ¬∃ layer ∈ layers, "" ∈ layer.ignore := fun ⟨layer, hlayer, h⟩ =>
      hpatterns layer hlayer h
    simp only [hstyle, hknown, if_neg hclean] at hresult
    refine ⟨fun hunset => ?_, fun name hname => ⟨fun hnone => ?_, fun ⟨l, hl, hanswers⟩ => ?_⟩⟩
    · rw [hunset] at hresult
      exact ⟨hresult, rfl⟩
    · have hfilter : living.filter (·.answersTo name) = [] := by simpa using hnone
      simp only [hname, bind, Except.bind, hfilter] at hresult
      exact ⟨hresult, rfl⟩
    · have hfilter : living.filter (·.answersTo name) ≠ [] :=
        List.ne_nil_of_mem (List.mem_filter.mpr ⟨hl, hanswers⟩)
      have hlast := List.getLast?_eq_some_getLast hfilter
      simp only [hname, bind, Except.bind, hlast] at hresult
      have hcontains := Delimiters.contains_ofChars (List.getLast _ hfilter).delimiters.toList
      exact ⟨_, _, hlast, hresult, rfl, rfl, rfl, rfl, rfl, rfl, hcontains, rfl⟩

/-- An alias of the first layer outlives the table it was taken from, which the second layer
replaces under another spelling of its name. -/
theorem ofSettings_layers_shadowed :
    let mine : Language := ⟨"mine", ["rs"], .ofList ["let"], .ofList [';']⟩
    let bare : Language := ⟨"RUST", [], .ofList ["fn"], .ofList ['(']⟩
    let layers : List Settings := [⟨some "camel", some "c", ["a*"], none, [mine]⟩,
      ⟨some "Snake", some "RS", ["b"], some .line, [bare]⟩]
    ∃ e, ofSettings .builtin (mergeAll layers) = .ok e ∧ e.convention = .snake ∧
      e.language = "mine" ∧ e.filter.keywords = [['l', 'e', 't']] ∧ e.filter.ignore = ["a*", "b"] ∧
      e.filter.accepts = IgnorePattern.accepts ∧ e.delimiters.marks = [';'] ∧
      [';', ' ', '(', '"'].map e.delimiters.contains = [true, true, false, false] ∧
      e.carry = .line := by
  intro mine bare layers
  obtain ⟨-, hstyle⟩ := ofSettings_layers .builtin .builtin layers
  obtain ⟨-, hknown⟩ := hstyle "Snake" rfl
  obtain ⟨-, hclean⟩ := hknown .snake (by decide +kernel)
  obtain ⟨-, hnamed⟩ := hclean (by decide +kernel)
  obtain ⟨-, hfound⟩ := hnamed "RS" rfl
  obtain ⟨l, e, hl, he, hconvention, hlanguage, hkeywords, hignore, haccepts, hmarks, -, hcarry⟩ :=
    hfound (by decide +kernel)
  have hmine : l = mine := by
    have hlast : ((Registry.live (Registry.builtin.languages ++ [mine, bare])).filter
        (·.answersTo "RS")).getLast? = some mine := by decide +kernel
    exact Option.some.inj (hl.symm.trans hlast)
  subst hmine
  have hsemicolon : e.delimiters.marks = [';'] := hmarks.trans (by decide +kernel)
  refine ⟨e, he, hconvention, hlanguage, hkeywords.trans (by decide +kernel), hignore, haccepts,
    hsemicolon, ?_, hcarry⟩
  simp only [List.map_cons, List.map_nil, Delimiters.contains, hsemicolon]
  decide +kernel

end Engine

end IdentCase
