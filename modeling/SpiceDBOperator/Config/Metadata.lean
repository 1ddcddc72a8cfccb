import SpiceDBOperator.Config.Keys
import SpiceDBOperator.Golang.Reorder

/-!
# Labels and annotations as text and as an object

`metadataSetKey.pop` takes labels as the text `k=v,k2=v2` or as an object. The text is cut at its commas, each piece at
its first `=`; a later piece overwrites an earlier one with the same key, and a piece without `=` is only warned about.
An object is read field by field, and a field that is not a string is only warned about. A map of strings whose keys and
values keep clear of the separators reads the same in both forms (`metadata_forms_agree`).
-/

namespace SpiceDBOperator

open Golang

/-! ## The object form -/

/-- The fields of an object of labels that are strings. -/
def stringFields (fields : List (String × Any)) : List (Sigma fun _ : String => String) :=
  fields.filterMap fun f =>
    match f.2 with
    | .string v => some ⟨f.1, v⟩
    | _ => none

/-- What is said about the others. -/
def unparsed (objectType metadataType : String) (fields : List (String × Any)) : List String :=
  fields.filterMap fun f =>
    match f.2 with
    | .string _ => none
    | v => some ("couldn't parse extra " ++ objectType ++ " " ++ metadataType ++ " " ++ v.text)

theorem metadataFields_eq (objectType metadataType : String) (fields : List (String × Any)) (set : MetadataSet) :
    fields.foldl (metadataField objectType metadataType) set =
      { set with
        metadata := (stringFields fields).foldl (fun m e => m.insert e.1 e.2) set.metadata
        warnings := set.warnings ++ unparsed objectType metadataType fields } := by
  induction fields generalizing set with
  | nil =>
    simp only [unparsed, List.filterMap_nil, List.append_nil]
    rfl
  | cons f rest ih =>
    obtain ⟨k, v⟩ := f
    rw [List.foldl_cons, ih]
    cases v <;> simp [metadataField, stringFields, unparsed, List.append_assoc]

theorem MetadataSetKey.pop_object {raw : RawConfig} {key : MetadataSetKey} {fields : List (String × Any)}
    (h : raw.lookup key = some (.object fields)) (objectType metadataType : String) :
    (key.pop objectType metadataType raw).1 = fields.foldl (metadataField objectType metadataType) {} := by
  rw [MetadataSetKey.pop, h]

/-! ## The text form -/

/-- The pieces of a text between its commas. -/
structure Pieces (s : String) (pieces : List String) : Prop where
  ne_nil : pieces ≠ []
  comma : ∀ p ∈ pieces, ',' ∉ p.toList
  joined : ",".intercalate pieces = s

theorem notMem_of_mem_splitOn (sep : Char) (runes : List Char) : ∀ piece ∈ runes.splitOn sep, sep ∉ piece := by
  induction runes with
  | nil => simp
  | cons c rest ih =>
    intro piece hpiece
    rw [List.splitOn_cons_eq_if_modifyHead] at hpiece
    split_ifs at hpiece with hc
    · rcases List.mem_cons.1 hpiece with rfl | hrest
      · exact List.not_mem_nil
      · exact ih piece hrest
    · cases hsplit : rest.splitOn sep with
      | nil => exact absurd hsplit (List.splitOn_ne_nil sep rest)
      | cons first others =>
        rw [hsplit, List.modifyHead_cons] at hpiece
        rw [hsplit] at ih
        rcases List.mem_cons.1 hpiece with rfl | hothers
        · rw [List.mem_cons, not_or]
          exact ⟨fun h => hc (by simp [h]), ih first (List.mem_cons_self ..)⟩
        · exact ih piece (List.mem_cons_of_mem _ hothers)

theorem pieces_iff {s : String} {pieces : List String} : Pieces s pieces ↔ splitComma s = pieces := by
  constructor
  · rintro ⟨hne, hcomma, rfl⟩
    have hrunes : ∀ l ∈ pieces.map String.toList, ',' ∉ l := by
      intro l hl
      obtain ⟨p, hp, rfl⟩ := List.mem_map.1 hl
      exact hcomma p hp
    have hsplit := List.splitOn_intercalate ',' hrunes (by simpa using hne)
    rw [splitComma, String.toList_intercalate]
    change (List.splitOn ',' ([','].intercalate (pieces.map String.toList))).map String.ofList = pieces
    rw [hsplit]
    simp
  · rintro rfl
    refine ⟨?_, ?_, ?_⟩
    · simp [splitComma]
    · intro p hp
      obtain ⟨l, hl, rfl⟩ := List.mem_map.1 hp
      rw [String.toList_ofList]
      exact notMem_of_mem_splitOn ',' s.toList l hl
    · apply String.toList_injective
      rw [String.toList_intercalate, splitComma, List.map_map]
      have hid : String.toList ∘ String.ofList = id := funext fun l => String.toList_ofList
      rw [hid, List.map_id]
      exact List.intercalate_splitOn ','

/-- What is said about a piece without `=`. -/
def unparsedPiece (objectType metadataType piece : String) : String :=
  "couldn't parse extra " ++ objectType ++ " " ++ metadataType ++ " " ++ quote piece ++
    ": values should be of the form k=v,k2=v2"

/-- The last of the pieces with the key `k` has the value `v`. -/
def LastWins (pieces : List String) (k v : String) : Prop :=
  '=' ∉ k.toList ∧ ∃ before after, pieces = before ++ (k ++ "=" ++ v) :: after ∧ ∀ w, k ++ "=" ++ w ∉ after

theorem exists_pair {p : String} (h : '=' ∈ p.toList) : ∃ k v, '=' ∉ k.toList ∧ p = k ++ "=" ++ v := by
  obtain ⟨before, after, hp, hbefore⟩ := List.eq_append_cons_of_mem h
  refine ⟨String.ofList before, String.ofList after, by rwa [String.toList_ofList], ?_⟩
  apply String.toList_injective
  simp [hp]

theorem pair_inj {k k' v v' : String} (hk : '=' ∉ k.toList) (hk' : '=' ∉ k'.toList)
    (h : k ++ "=" ++ v = k' ++ "=" ++ v') : k = k' ∧ v = v' := by
  have hcut := (cut_append hk v).symm.trans ((congrArg (cut · '=') h).trans (cut_append hk' v'))
  simpa using hcut

theorem not_lastWins_nil (k v : String) : ¬LastWins [] k v := by
  rintro ⟨-, before, after, hnil, -⟩
  simp at hnil

/-- A piece at the end wins over those before it. -/
theorem lastWins_concat {pieces : List String} {p k v : String} :
    LastWins (pieces ++ [p]) k v ↔
      '=' ∉ k.toList ∧ p = k ++ "=" ++ v ∨ LastWins pieces k v ∧ ∀ w, p ≠ k ++ "=" ++ w := by
  constructor
  · rintro ⟨hk, before, after, hsplit, hlast⟩
    rcases List.eq_nil_or_concat' after with rfl | ⟨after', p', rfl⟩
    · exact .inl ⟨hk, List.singleton_inj.1 (List.append_inj' hsplit rfl).2⟩
    · rw [← List.cons_append, ← List.append_assoc] at hsplit
      obtain ⟨rfl, hp⟩ := List.append_inj' hsplit rfl
      obtain rfl := List.singleton_inj.1 hp
      refine .inr ⟨⟨hk, before, after', rfl, fun w hw => hlast w (List.mem_append_left _ hw)⟩, fun w hw => ?_⟩
      exact hlast w (by simp [hw])
  · rintro (⟨hk, rfl⟩ | ⟨⟨hk, before, after, rfl, hlast⟩, hp⟩)
    · exact ⟨hk, pieces, [], rfl, fun _ => List.not_mem_nil⟩
    · refine ⟨hk, before, after ++ [p], by simp, fun w hw => ?_⟩
      rcases List.mem_append.1 hw with hw | hw
      · exact hlast w hw
      · exact hp w (List.mem_singleton.1 hw).symm

section

variable (objectType metadataType : String)

theorem metadataPair_unparsed (set : MetadataSet) {p : String} (hp : '=' ∉ p.toList) :
    metadataPair objectType metadataType set p =
      { set with warnings := set.warnings ++ [unparsedPiece objectType metadataType p] } := by
  rw [metadataPair, cut_of_notMem hp]
  rfl

theorem metadataPair_pair (set : MetadataSet) {k : String} (hk : '=' ∉ k.toList) (v : String) :
    metadataPair objectType metadataType set (k ++ "=" ++ v) = { set with metadata := set.metadata.insert k v } := by
  have hcut : cut (k ++ "=" ++ v) '=' = (k, v, true) := cut_append hk v
  rw [metadataPair, hcut]

/-- What the pieces of a text leave: one warning for each without `=`, in their order, and the last wins. -/
structure ReadsPieces (pieces : List String) (set : MetadataSet) : Prop where
  warnings : set.warnings = (pieces.filter fun p => '=' ∉ p.toList).map (unparsedPiece objectType metadataType)
  metadata : ∀ k v, set.metadata.lookup k = some v ↔ LastWins pieces k v
  err : set.err = none

theorem ReadsPieces.concat {pieces : List String} {set : MetadataSet}
    (h : ReadsPieces objectType metadataType pieces set) (p : String) :
    ReadsPieces objectType metadataType (pieces ++ [p]) (metadataPair objectType metadataType set p) := by
  by_cases hmem : '=' ∈ p.toList
  · obtain ⟨k', v', hk', rfl⟩ := exists_pair hmem
    rw [metadataPair_pair objectType metadataType set hk']
    refine ⟨by simp [h.warnings], fun k v => ?_, h.err⟩
    rw [lastWins_concat]
    by_cases hk : k = k'
    · subst hk
      rw [AList.lookup_insert]
      constructor
      · rintro ⟨⟩
        exact .inl ⟨hk', rfl⟩
      · rintro (⟨-, hp⟩ | ⟨-, hp⟩)
        · rw [(pair_inj hk' hk' hp).2]
        · exact absurd rfl (hp v')
    · rw [AList.lookup_insert_ne hk, h.metadata]
      constructor
      · intro hwin
        exact .inr ⟨hwin, fun w hw => hk (pair_inj hk' hwin.1 hw).1.symm⟩
      · rintro (⟨hkey, hp⟩ | ⟨hwin, -⟩)
        · exact absurd (pair_inj hk' hkey hp).1.symm hk
        · exact hwin
  · rw [metadataPair_unparsed objectType metadataType set hmem]
    refine ⟨by simp [h.warnings, hmem], fun k v => ?_, h.err⟩
    have hp : ∀ w, p ≠ k ++ "=" ++ w := by
      rintro w rfl
      simp at hmem
    rw [h.metadata, lastWins_concat]
    simp [hp]

theorem readsPieces (pieces : List String) :
    ReadsPieces objectType metadataType pieces (pieces.foldl (metadataPair objectType metadataType) {}) := by
  -- from the end, since a piece changes what those before it have left
  induction pieces using List.reverseRecOn with
  | nil => exact ⟨rfl, fun k v => by simp [not_lastWins_nil], rfl⟩
  | append_singleton pieces p ih =>
    rw [List.foldl_append, List.foldl_cons, List.foldl_nil]
    exact ih.concat objectType metadataType p

theorem MetadataSetKey.pop_text {raw : RawConfig} {key : MetadataSetKey} {s : String}
    (h : raw.lookup key = some (.string s)) (hs : s ≠ "") :
    (key.pop objectType metadataType raw).1 = (splitComma s).foldl (metadataPair objectType metadataType) {} := by
  rw [MetadataSetKey.pop, h]
  exact if_neg hs

/-- What a pop can come to. -/
theorem MetadataSetKey.pop_cases (key : MetadataSetKey) (raw : RawConfig) :
    (key.pop objectType metadataType raw).1 = {} ∨
    (∃ pieces, ReadsPieces objectType metadataType pieces (key.pop objectType metadataType raw).1) ∨
    (∃ fields : List (String × Any),
      (key.pop objectType metadataType raw).1 = fields.foldl (metadataField objectType metadataType) {}) ∨
    (key.pop objectType metadataType raw).1 = { err := some ("expected string or map for key " ++ key) } := by
  cases hv : raw.lookup key with
  | none =>
    rw [MetadataSetKey.pop, hv]
    exact .inl rfl
  | some v =>
    cases v with
    | string s =>
      by_cases hs : s = ""
      · rw [MetadataSetKey.pop, hv, hs]
        exact .inl rfl
      · rw [MetadataSetKey.pop_text objectType metadataType hv hs]
        exact .inr (.inl ⟨_, readsPieces objectType metadataType _⟩)
    | object fields =>
      rw [MetadataSetKey.pop_object hv]
      exact .inr (.inr (.inl ⟨fields, rfl⟩))
    | _ =>
      rw [MetadataSetKey.pop, hv]
      exact .inr (.inr (.inr rfl))

end

/-! ## The two forms -/

/-- The text form of the entries of a map, in the order given. -/
def metadataText (entries : List (Sigma fun _ : String => String)) : String :=
  ",".intercalate (entries.map fun e => e.1 ++ "=" ++ e.2)

/-- The object form, in the order given. -/
def metadataObject (entries : List (Sigma fun _ : String => String)) : List (String × Any) :=
  entries.map fun e => (e.1, .string e.2)

/-- Exactly these labels were read, without a warning or an error. -/
structure ReadsMap (m : GoMap String) (set : MetadataSet) : Prop where
  metadata : Golang.Reordered set.metadata m
  warnings : set.warnings = []
  err : set.err = none

/-- Keys and values keep clear of the separators; a value may hold a `=`. -/
def Separable (m : GoMap String) : Prop :=
  ∀ k v, m.lookup k = some v → '=' ∉ k.toList ∧ ',' ∉ k.toList ∧ ',' ∉ v.toList

section

variable {m : GoMap String} {entries : List (Sigma fun _ : String => String)}

theorem mem_of_perm_iff (hperm : entries.Perm m.entries) {k v : String} : ⟨k, v⟩ ∈ entries ↔ m.lookup k = some v := by
  rw [hperm.mem_iff, ← AList.mem_lookup_iff, Option.mem_def]

theorem Separable.pieces (hm : Separable m) (hperm : entries.Perm m.entries) (hne : entries ≠ []) :
    Pieces (metadataText entries) (entries.map fun e => e.1 ++ "=" ++ e.2) := by
  refine ⟨by simpa using hne, ?_, rfl⟩
  intro p hp
  obtain ⟨⟨k, v⟩, he, rfl⟩ := List.mem_map.1 hp
  obtain ⟨-, hk, hv⟩ := hm k v ((mem_of_perm_iff hperm).1 he)
  simp [hk, hv]

/-- With one entry for each key, the last one wins over nothing. -/
theorem Separable.lastWins_iff (hm : Separable m) (hperm : entries.Perm m.entries) (k v : String) :
    LastWins (entries.map fun e => e.1 ++ "=" ++ e.2) k v ↔ m.lookup k = some v := by
  constructor
  · rintro ⟨hk, before, after, hsplit, -⟩
    have hpiece : k ++ "=" ++ v ∈ entries.map fun e => e.1 ++ "=" ++ e.2 := by simp [hsplit]
    obtain ⟨⟨k', v'⟩, he, heq⟩ := List.mem_map.1 hpiece
    have hlookup := (mem_of_perm_iff hperm).1 he
    obtain ⟨rfl, rfl⟩ := pair_inj (hm k' v' hlookup).1 hk heq
    exact hlookup
  · intro hlookup
    have hk := (hm k v hlookup).1
    have hnodup : entries.NodupKeys := (List.perm_nodupKeys hperm).2 m.nodupKeys
    obtain ⟨before, after, rfl⟩ := List.append_of_mem ((mem_of_perm_iff hperm).2 hlookup)
    refine ⟨hk, before.map fun e => e.1 ++ "=" ++ e.2, after.map fun e => e.1 ++ "=" ++ e.2, by simp, fun w hw => ?_⟩
    obtain ⟨⟨k', v'⟩, he, heq⟩ := List.mem_map.1 hw
    have he' : (⟨k', v'⟩ : Sigma fun _ : String => String) ∈ before ++ ⟨k, v⟩ :: after := by simp [he]
    obtain ⟨rfl, -⟩ := pair_inj (hm k' v' ((mem_of_perm_iff hperm).1 he')).1 hk heq
    have hrest : (⟨k', v⟩ :: after : List (Sigma fun _ : String => String)).NodupKeys :=
      hnodup.sublist (List.sublist_append_right _ _)
    have hkey : k' ∈ after.keys := List.mem_keys_of_mem he
    exact (List.nodupKeys_cons.1 hrest).1 hkey

theorem Separable.pop_text (hm : Separable m) (hperm : entries.Perm m.entries) {raw : RawConfig} {key : MetadataSetKey}
    (h : raw.lookup key = some (.string (metadataText entries))) (objectType metadataType : String) :
    ReadsMap m (key.pop objectType metadataType raw).1 := by
  by_cases hne : entries = []
  · -- the empty map is the empty text, which has no pieces
    subst hne
    have hempty : m.entries = [] := hperm.symm.eq_nil
    have hset : (key.pop objectType metadataType raw).1 = {} := by
      rw [MetadataSetKey.pop, h]
      rfl
    rw [hset]
    refine ⟨fun k => ?_, rfl, rfl⟩
    rw [AList.lookup, AList.lookup, hempty]
    rfl
  · have hpieces := hm.pieces hperm hne
    have hsplit := pieces_iff.1 hpieces
    have htext : metadataText entries ≠ "" := by
      intro htext
      rw [htext] at hsplit
      obtain ⟨e, rest, rfl⟩ := List.exists_cons_of_ne_nil hne
      have hhead := (List.cons.inj hsplit).1
      simpa using congrArg String.toList hhead
    have hread := readsPieces objectType metadataType (entries.map fun e => e.1 ++ "=" ++ e.2)
    rw [MetadataSetKey.pop_text objectType metadataType h htext, hsplit]
    refine ⟨fun k => Option.ext fun v => ?_, ?_, hread.err⟩
    · rw [hread.metadata, hm.lastWins_iff hperm]
    · rw [hread.warnings, List.map_eq_nil_iff, List.filter_eq_nil_iff]
      intro p hp
      obtain ⟨e, -, rfl⟩ := List.mem_map.1 hp
      simp

theorem pop_object_reads (hperm : entries.Perm m.entries) {raw : RawConfig} {key : MetadataSetKey}
    (h : raw.lookup key = some (.object (metadataObject entries))) (objectType metadataType : String) :
    ReadsMap m (key.pop objectType metadataType raw).1 := by
  have hstrings : stringFields (metadataObject entries) = entries := by
    simp [stringFields, metadataObject, List.filterMap_map]
  have hunparsed : unparsed objectType metadataType (metadataObject entries) = [] := by
    simp [unparsed, metadataObject, List.filterMap_map]
  have hnodup : entries.NodupKeys := (List.perm_nodupKeys hperm).2 m.nodupKeys
  rw [MetadataSetKey.pop_object h, metadataFields_eq, hstrings, hunparsed]
  refine ⟨fun k => ?_, rfl, rfl⟩
  rw [foldl_insert_lookup _ hnodup, List.perm_dlookup k hnodup hperm]
  simp [AList.lookup]

end

/-- **Text and object agree.** A map of strings that keeps clear of the separators reads back as itself in both forms,
in whatever order it is written, with nothing to report. Every text reads as its pieces: those without `=` are warned
about one by one, and of the others the last one of a key wins. -/
theorem metadata_forms_agree (key : MetadataSetKey) (objectType metadataType : String) :
    (∀ (m : GoMap String) (entries entries' : List (Sigma fun _ : String => String)) (raw raw' : RawConfig),
      Separable m → entries.Perm m.entries → entries'.Perm m.entries →
      raw.lookup key = some (.string (metadataText entries)) →
      raw'.lookup key = some (.object (metadataObject entries')) →
      ReadsMap m (key.pop objectType metadataType raw).1 ∧ ReadsMap m (key.pop objectType metadataType raw').1) ∧
    ∀ (s : String) (raw : RawConfig), s ≠ "" → raw.lookup key = some (.string s) →
      ∃ pieces, Pieces s pieces ∧
        ReadsPieces objectType metadataType pieces (key.pop objectType metadataType raw).1 := by
  refine ⟨fun m entries entries' raw raw' hm hperm hperm' h h' => ?_, fun s raw hs h => ?_⟩
  · exact ⟨hm.pop_text hperm h _ _, pop_object_reads hperm' h' _ _⟩
  · refine ⟨splitComma s, pieces_iff.2 rfl, ?_⟩
    rw [MetadataSetKey.pop_text objectType metadataType h hs]
    exact readsPieces objectType metadataType (splitComma s)

/-- Two labels, one with `=` in its value, and a text that repeats a key and has a piece without `=`. -/
theorem two_labels_agree :
    ReadsMap (mapOf [("a", "1=2"), ("b", "")])
      (MetadataSetKey.extraPodLabels.pop "pod" "label" (mapOf [("extraPodLabels", .string "b=,a=1=2")])).1 ∧
    ReadsMap (mapOf [("a", "1=2"), ("b", "")])
      (MetadataSetKey.extraPodLabels.pop "pod" "label"
        (mapOf [("extraPodLabels", .object [("a", .string "1=2"), ("b", .string "")])])).1 ∧
    ∃ pieces, Pieces "a=1,b,a=2" pieces ∧
      ReadsPieces "pod" "label" pieces
        (MetadataSetKey.extraPodLabels.pop "pod" "label" (mapOf [("extraPodLabels", .string "a=1,b,a=2")])).1 := by
  obtain ⟨hforms, htext⟩ := metadata_forms_agree MetadataSetKey.extraPodLabels "pod" "label"
  have hseparable : Separable (mapOf [("a", "1=2"), ("b", "")]) := by
    intro k v h
    have hentries : (mapOf [("a", "1=2"), ("b", "")]).entries = [⟨"a", "1=2"⟩, ⟨"b", ""⟩] := by decide
    have hmem := AList.mem_lookup_iff.1 h
    rw [hentries, List.mem_pair] at hmem
    rcases hmem with heq | heq
    · cases heq
      decide
    · cases heq
      decide
  have hagree := hforms (mapOf [("a", "1=2"), ("b", "")]) [⟨"b", ""⟩, ⟨"a", "1=2"⟩] [⟨"a", "1=2"⟩, ⟨"b", ""⟩]
    (mapOf [("extraPodLabels", .string "b=,a=1=2")])
    (mapOf [("extraPodLabels", .object [("a", .string "1=2"), ("b", .string "")])])
    hseparable (by decide) (by decide) rfl rfl
  exact ⟨hagree.1, hagree.2, htext "a=1,b,a=2" _ (by decide) rfl⟩

end SpiceDBOperator
