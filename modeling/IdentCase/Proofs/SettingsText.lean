import IdentCase.Proofs.JsonReading
import IdentCase.Settings.Reader
import IdentCase.Settings.Basic

/-!
# Settings as text

Every JSON text of settings is read as these settings: on one line, laid out, with blanks where JSON
allows them and with any escapes.
-/

set_option autoImplicit false

namespace IdentCase

namespace SortedSet

section

variable {α : Type} [Ranked α] (hstrict : ∀ a : α, ¬Ranked.before a a = true)

include hstrict

theorem insertList_last (x : α) (members : List α)
    (h : ∀ y ∈ members, Ranked.before y x = true) : insertList x members = members ++ [x] := by
  induction members with
  | nil => rfl
  | cons y members ih =>
    have hyx : Ranked.before y x = true := h y (by simp)
    have hxy : ¬Ranked.before x y = true := fun hxy => hstrict x (Ranked.before_trans hxy hyx)
    have hrest := ih fun z hz => h z (by simp [hz])
    simp only [insertList, if_neg hxy, if_pos hyx, hrest, List.cons_append]

theorem foldl_insert_ascending (members : List α) (s : SortedSet α)
    (h : (s.toList ++ members).Pairwise fun a b => Ranked.before a b = true) :
    (members.foldl insert s).toList = s.toList ++ members := by
  induction members generalizing s with
  | nil => simp
  | cons x members ih =>
    have hlast : (s.insert x).toList = s.toList ++ [x] := by
      apply insertList_last hstrict
      intro y hy
      exact (List.pairwise_append.mp h).2.2 y hy x (by simp)
    rw [List.foldl_cons, ih (s.insert x) (by simpa [hlast] using h), hlast, List.append_assoc,
      List.singleton_append]

theorem ofList_toList (s : SortedSet α) : ofList s.toList = s :=
  eq_of_toList_eq (foldl_insert_ascending hstrict s.toList empty s.ascending)

end

theorem ofList_chars (s : SortedSet Char) : ofList s.toList = s :=
  ofList_toList (fun c => by simp [Ranked.before]) s

theorem ofList_strings (s : SortedSet String) : ofList s.toList = s :=
  ofList_toList (fun name => by simp [Ranked.before]) s

end SortedSet

open Json

theorem QuoteCarry.read_takes (carry : QuoteCarry) (text : Text)
    (h : WrittenString carry.name text) : Takes QuoteCarry.read text carry := by
  intro gap rest hgap
  have hname : ofNameOrError carry.name = .ok carry := by cases carry <;> rfl
  obtain ⟨body, rfl, hbody⟩ := string_body carry.name text h
  rw [QuoteCarry.read, List.cons_append, skipBlanks_gap gap hgap '"' _ (by decide)]
  simp [hbody, hname, bind, Except.bind]

theorem Language.read_takes (l : Language) (text : Text) (h : Written l.toJson text) :
    Takes Language.read text l := by
  apply object_takes Language.read (fun fuel => readMembers fuel true .empty) _ l _ _ text h
  · intro text rest htext
    rw [Language.read, htext]
    rfl
  · intro body fuel rest hbody
    obtain ⟨name, body₁, hbody₁, hname, readName⟩ := members_next _ _ _ _ _ hbody
    obtain ⟨aliases, body₂, hbody₂, haliases, readAliases⟩ := members_next _ _ _ _ _ hbody₁
    obtain ⟨keywords, body₃, hbody₃, hkeywords, readKeywords⟩ := members_next _ _ _ _ _ hbody₂
    obtain ⟨delimiters, body₄, hbody₄, hdelimiters, readDelimiters⟩ :=
      members_next _ _ _ _ _ hbody₃
    have hend := members_close _ _ hbody₄ rest
    have hfirst := readName readString l.name (readString_takes l.name)
    have hsecond := readAliases (readList readString) l.aliases (readStrings_takes l.aliases)
    have hthird := readKeywords (readList readString) _ (readStrings_takes l.keywords.toList)
    have hfourth := readDelimiters (readList readChar) _ (readChars_takes l.delimiters.toList)
    simp [Language.readMembers, Draft.empty, Draft.finish, hname, haliases, hkeywords, hdelimiters,
      hend, hfirst, hsecond, hthird, hfourth, bind, Except.bind, SortedSet.ofList_strings,
      SortedSet.ofList_chars]

theorem Settings.read_takes (s : Settings) (text : Text) (h : Written s.toJson text) :
    Takes Settings.read text s := by
  apply object_takes Settings.read (fun fuel => readMembers fuel true .empty) _ s _ _ text h
  · intro text rest htext
    rw [Settings.read, htext]
    rfl
  · intro body fuel rest hbody
    obtain ⟨convention, body₁, hbody₁, hconvention, readConvention⟩ := members_next _ _ _ _ _ hbody
    obtain ⟨language, body₂, hbody₂, hlanguage, readLanguage⟩ := members_next _ _ _ _ _ hbody₁
    obtain ⟨ignore, body₃, hbody₃, hignore, readIgnore⟩ := members_next _ _ _ _ _ hbody₂
    obtain ⟨carry, body₄, hbody₄, hcarry, readCarry⟩ := members_next _ _ _ _ _ hbody₃
    obtain ⟨languages, body₅, hbody₅, hlanguages, readLanguages⟩ := members_next _ _ _ _ _ hbody₄
    have hend := members_close _ _ hbody₅ rest
    have hfirst := readConvention (readOption readString) _ (readOptional_takes s.convention)
    have hsecond := readLanguage (readOption readString) _ (readOptional_takes s.language)
    have hthird := readIgnore (readList readString) _ (readStrings_takes s.ignore)
    have hfourth := readCarry (readOption QuoteCarry.read) _
      (readOption_takes QuoteCarry.read QuoteCarry.name QuoteCarry.read_takes s.quoteCarry)
    have hfifth := readLanguages (readList Language.read) _
      (readList_takes Language.read Language.toJson Language.read_takes s.languages)
    simp [Settings.readMembers, Draft.empty, Draft.finish, hconvention, hlanguage, hignore, hcarry,
      hlanguages, hend, hfirst, hsecond, hthird, hfourth, hfifth, bind, Except.bind]

namespace Settings

theorem ofSource_alone (source : String) (s : Settings) (text : Text)
    (h : s.toJson.WrittenAlone text) : ofSource source (String.ofList text) = .ok s := by
  rw [ofSource, ofText, String.toList_ofList, readAll_written read s s.toJson s.read_takes text h]
  rfl

/-- Settings are read back from the text that is written for them, from the laid out text, and from
every other JSON text of theirs. -/
theorem ofSource_text (source : String) (s : Settings) :
    ofSource source s.toText = .ok s ∧
      ofSource source (String.ofList (s.toJson.layout 0)) = .ok s ∧
        ∀ text, s.toJson.WrittenAlone text → ofSource source (String.ofList text) = .ok s := by
  refine ⟨?_, ?_, ofSource_alone source s⟩
  · exact ofSource_alone source s _ (written_alone (compact_written s.toJson))
  · exact ofSource_alone source s _ (written_alone (layout_written 0 s.toJson))

theorem ofSource_text_clef :
    let s : Settings := ⟨some "𝄞\n", none, ["\"\\\u0001"], some .line,
      [⟨"c", [], .ofList ["if"], .ofList ['𝄞', '"']⟩]⟩
    let text : Text := "\x7b\"convention\":\"\\uD834\\udd1e\\u000A\",".toList ++
      "\"language\":null,\"ignore\":[\"\\\"\\\\\\u0001\"],".toList ++
      "\"quoteCarry\":\"line\",\"languages\":[\x7b\"name\":\"c\",".toList ++
      "\"aliases\":[],\"keywords\":[\"if\"],".toList ++
      "\"delimiters\":[\"\\\"\",\"𝄞\"]\x7d]\x7d".toList
    s.toJson.WrittenAlone text ∧ s.toJson.compact ≠ text ∧
      ofSource "settings" (String.ofList text) = .ok s := by
  intro s text
  have hfront : Code (0xD800 + 0x34) ['D', '8', '3', '4'] :=
    .digits (a := 13) (b := 8) (c := 3) (d := 4) (by decide) (by decide) (by decide) (by decide)
  have hback : Code (0xDC00 + 0x11E) ['d', 'd', '1', 'e'] :=
    .digits (a := 13) (b := 13) (c := 1) (d := 14) (by decide) (by decide) (by decide) (by decide)
  have hnewline : Code '\n'.toNat ['0', '0', '0', 'A'] :=
    .digits (a := 0) (b := 0) (c := 0) (d := 10) (by decide) (by decide) (by decide) (by decide)
  have hclef : WrittenChar '𝄞' "\\uD834\\udd1e".toList :=
    .pair (by decide) (by decide) (by decide) hfront hback
  have hconvention : WrittenString "𝄞\n" "\"\\uD834\\udd1e\\u000A\"".toList :=
    ⟨_, .cons hclef (.cons (.code hnewline) .nil), by decide +kernel⟩
  have hwritten : s.toJson.WrittenAlone text :=
    ⟨[], _, [], gap_nil, .obj (.member (.first gap_nil) (writeString_written "convention") gap_nil
      gap_nil (.str hconvention) (compactMembers_written false _)), gap_nil, by decide +kernel⟩
  exact ⟨hwritten, by decide +kernel, (ofSource_text "settings" s).2.2 text hwritten⟩

end Settings

end IdentCase
