import CommitLint.Proofs.Toml.Merge
import CommitLint.Toml.Document

/-!
# What documents hold

Every document that can be read is proper (`isProper_of_readDocument`): its tables have distinct
keys, and its integers are of 64 bits. The first holds because drafts grow by putting entries, and
the second because a number is only read within bounds. So the proof goes through the readers from
the inside out: scalars, values within values, and lines that change a draft.
-/

namespace CommitLint.Toml

open Entries

/-! ### Drafts -/

namespace Draft

/-- A draft that comes to a proper value. -/
inductive IsProper : Draft → Prop
  | value {v : Value} (hv : v.IsProper) : IsProper (.value v)
  | table {implied dotted : Bool} {entries : List (String × Draft)}
    (hkeys : HasDistinctKeys entries) (hdrafts : ∀ e ∈ entries, IsProper e.2) :
    IsProper (.table implied dotted entries)
  | tables {earlier : List Value} {last : List (String × Draft)}
    (hearlier : ∀ v ∈ earlier, v.IsProper) (hkeys : HasDistinctKeys last)
    (hdrafts : ∀ e ∈ last, IsProper e.2) : IsProper (.tables earlier last)

/-- The entries of a proper draft of a table. -/
def AreProper (entries : List (String × Draft)) : Prop :=
  HasDistinctKeys entries ∧ ∀ e ∈ entries, e.2.IsProper

variable {entries entries' : List (String × Draft)} {key : String}

theorem areProper_nil : AreProper [] := ⟨hasDistinctKeys_nil, fun _ h => absurd h List.not_mem_nil⟩

theorem isProper_table_iff {implied dotted : Bool} :
    (Draft.table implied dotted entries).IsProper ↔ AreProper entries :=
  ⟨fun | .table hkeys hdrafts => ⟨hkeys, hdrafts⟩, fun h => .table h.1 h.2⟩

theorem isProper_tables_iff {earlier : List Value} :
    (Draft.tables earlier entries).IsProper ↔ (∀ v ∈ earlier, v.IsProper) ∧ AreProper entries :=
  ⟨fun | .tables hearlier hkeys hdrafts => ⟨hearlier, hkeys, hdrafts⟩,
    fun ⟨hearlier, hlast⟩ => .tables hearlier hlast.1 hlast.2⟩

theorem AreProper.of_lookup (h : AreProper entries) {draft : Draft}
    (hlookup : entries.lookup key = some draft) : draft.IsProper :=
  h.2 _ (mem_of_lookup_eq_some hlookup)

theorem AreProper.putEntry (h : AreProper entries) {draft : Draft} (hdraft : draft.IsProper) :
    AreProper (Toml.putEntry key draft entries) := by
  refine ⟨hasDistinctKeys_putEntry h.1 key draft, fun e he => ?_⟩
  rcases mem_putEntry he with rfl | he
  · exact hdraft
  · exact h.2 e he

theorem AreProper.of_putEntry_bind (h : AreProper entries) {f : List (String × Draft) → Draft}
    {inner? : Option (List (String × Draft))}
    (hinner : ∀ inner, inner? = some inner → (f inner).IsProper)
    (heq : (do some (Toml.putEntry key (f (← inner?)) entries)) = some entries') :
    AreProper entries' := by
  obtain ⟨inner, hsome, hput⟩ := Option.bind_eq_some_iff.mp heq
  obtain rfl := Option.some.inj hput
  exact h.putEntry (hinner inner hsome)

/-- A table within a table grows. -/
theorem AreProper.of_grown_table (h : AreProper entries) {implied dotted : Bool}
    {inner? : Option (List (String × Draft))}
    (hinner : ∀ {inner}, inner? = some inner → AreProper inner)
    (heq : (do some (Toml.putEntry key (.table implied dotted (← inner?)) entries)) =
      some entries') : AreProper entries' :=
  h.of_putEntry_bind (fun _ hsome => isProper_table_iff.mpr (hinner hsome)) heq

/-- The last table of an array of tables grows. -/
theorem AreProper.of_grown_tables (h : AreProper entries) {earlier : List Value}
    (hearlier : ∀ v ∈ earlier, v.IsProper) {inner? : Option (List (String × Draft))}
    (hinner : ∀ {inner}, inner? = some inner → AreProper inner)
    (heq : (do some (Toml.putEntry key (.tables earlier (← inner?)) entries)) = some entries') :
    AreProper entries' :=
  h.of_putEntry_bind (fun _ hsome => isProper_tables_iff.mpr ⟨hearlier, hinner hsome⟩) heq

theorem finishEntries_eq_map (entries : List (String × Draft)) :
    finishEntries entries = entries.map fun (key, draft) => (key, draft.finish) := by
  induction entries with
  | nil => rw [finishEntries, List.map_nil]
  | cons e entries ih => rw [finishEntries, ih, List.map_cons]

theorem isProper_finishEntries (hkeys : HasDistinctKeys entries)
    (hvalues : ∀ e ∈ entries, e.2.finish.IsProper) :
    (Value.table (finishEntries entries)).IsProper := by
  rw [finishEntries_eq_map]
  refine .table ?_ fun e he => ?_
  · rw [HasDistinctKeys, List.map_map]
    exact hkeys
  · obtain ⟨d, hd, rfl⟩ := List.mem_map.mp he
    exact hvalues d hd

theorem IsProper.finish {draft : Draft} (h : draft.IsProper) : draft.finish.IsProper := by
  induction h with
  | value hv =>
    rw [Draft.finish]
    exact hv
  | table hkeys _ ih =>
    rw [Draft.finish]
    exact isProper_finishEntries hkeys ih
  | tables hearlier hkeys _ ih =>
    rw [Draft.finish]
    refine .array fun v hv => ?_
    rcases List.mem_append.mp hv with hv | hv
    · exact hearlier v hv
    · obtain rfl := List.mem_singleton.mp hv
      exact isProper_finishEntries hkeys ih

theorem AreProper.finishEntries (h : AreProper entries) :
    (Value.table (finishEntries entries)).IsProper :=
  isProper_finishEntries h.1 fun e he => (h.2 e he).finish

theorem AreProper.insertDotted {v : Value} (hv : v.IsProper) {path : List String}
    (h : AreProper entries) (heq : insertDotted key v path entries = some entries') :
    AreProper entries' := by
  induction path generalizing entries entries' with
  | nil =>
    rw [Draft.insertDotted] at heq
    split at heq
    · cases heq
    · exact Option.some.inj heq ▸ h.putEntry (.value hv)
  | cons k path ih =>
    rw [Draft.insertDotted] at heq
    split at heq
    case h_1 => exact h.of_grown_table (ih areProper_nil) heq
    case h_2 hlookup =>
      split_ifs at heq
      have hold := isProper_table_iff.mp (h.of_lookup hlookup)
      exact h.of_grown_table (ih hold) heq
    case h_3 hlookup =>
      split_ifs at heq
      obtain ⟨hearlier, hlast⟩ := isProper_tables_iff.mp (h.of_lookup hlookup)
      exact h.of_grown_tables hearlier (ih hlast) heq
    case h_4 => cases heq

theorem AreProper.atPath {change : List (String × Draft) → Option (List (String × Draft))}
    (hchange : ∀ entries entries', AreProper entries → change entries = some entries' →
      AreProper entries')
    {path : List String} (h : AreProper entries)
    (heq : atPath change path entries = some entries') : AreProper entries' := by
  induction path generalizing entries entries' with
  | nil => exact hchange entries entries' h heq
  | cons k path ih =>
    rw [Draft.atPath] at heq
    split at heq
    case h_1 => exact h.of_grown_table (ih areProper_nil) heq
    case h_2 hlookup =>
      have hold := isProper_table_iff.mp (h.of_lookup hlookup)
      exact h.of_grown_table (ih hold) heq
    case h_3 hlookup =>
      obtain ⟨hearlier, hlast⟩ := isProper_tables_iff.mp (h.of_lookup hlookup)
      exact h.of_grown_tables hearlier (ih hlast) heq
    case h_4 => cases heq

theorem AreProper.openTable (h : AreProper entries)
    (heq : openTable key entries = some entries') : AreProper entries' := by
  rw [Draft.openTable] at heq
  split at heq
  case h_1 => exact Option.some.inj heq ▸ h.putEntry (isProper_table_iff.mpr areProper_nil)
  case h_2 hlookup =>
    have hinner := isProper_table_iff.mp (h.of_lookup hlookup)
    exact Option.some.inj heq ▸ h.putEntry (isProper_table_iff.mpr hinner)
  case h_3 => cases heq

theorem AreProper.openElement (h : AreProper entries)
    (heq : openElement key entries = some entries') : AreProper entries' := by
  rw [Draft.openElement] at heq
  split at heq
  case h_1 =>
    refine Option.some.inj heq ▸
      h.putEntry (isProper_tables_iff.mpr ⟨fun v hv => ?_, areProper_nil⟩)
    exact absurd hv List.not_mem_nil
  case h_2 hlookup =>
    obtain ⟨hearlier, hlast⟩ := isProper_tables_iff.mp (h.of_lookup hlookup)
    refine Option.some.inj heq ▸
      h.putEntry (isProper_tables_iff.mpr ⟨fun v hv => ?_, areProper_nil⟩)
    rcases List.mem_append.mp hv with hv | hv
    · exact hearlier v hv
    · obtain rfl := List.mem_singleton.mp hv
      exact hlast.finishEntries
  case h_3 => cases heq

end Draft

/-! ### Values -/

/-- Every value that a reader gives is proper. -/
def GivesProper (item : Reader Value) : Prop := ∀ s v rest, item s = some (v, rest) → v.IsProper

theorem GivesProper.map {α : Type} {f : α → Value} (hf : ∀ a, (f a).IsProper)
    (item : Reader α) : GivesProper fun s => (item s).map fun (a, rest) => (f a, rest) := by
  intro s v rest h
  obtain ⟨⟨a, after⟩, -, heq⟩ := Option.map_eq_some_iff.mp h
  obtain ⟨rfl, rfl⟩ := Prod.mk.inj heq
  exact hf a

theorem isProper_of_boundedInteger? {n : Int} {v : Value} (h : boundedInteger? n = some v) :
    v.IsProper := by
  rw [boundedInteger?] at h
  split_ifs at h with hbounds
  exact Option.some.inj h ▸ .integer hbounds.1 hbounds.2

theorem givesProper_readBased (base : Nat) : GivesProper (readBased base) := by
  intro s v rest h
  simp only [readBased, bind, Option.bind_eq_some_iff] at h
  obtain ⟨_, -, ds, -, value, hvalue, heq⟩ := h
  obtain ⟨rfl, -⟩ := Prod.mk.inj (Option.some.inj heq)
  exact isProper_of_boundedInteger? hvalue

theorem givesProper_readInteger : GivesProper readInteger := by
  intro s v rest h
  rw [readInteger.eq_def] at h
  split at h
  case h_1 => exact givesProper_readBased 16 _ _ _ h
  case h_2 => exact givesProper_readBased 8 _ _ _ h
  case h_3 => exact givesProper_readBased 2 _ _ _ h
  case h_4 =>
    simp only [bind, Option.bind_eq_some_iff] at h
    obtain ⟨_, -, value, hvalue, heq⟩ := h
    obtain ⟨rfl, -⟩ := Prod.mk.inj (Option.some.inj heq)
    exact isProper_of_boundedInteger? hvalue

theorem givesProper_readDecimalFloat : GivesProper readDecimalFloat := by
  intro s v rest h
  simp only [readDecimalFloat, bind, Option.bind_eq_some_iff] at h
  obtain ⟨_, -, _, -, _, -, h⟩ := h
  split_ifs at h
  obtain ⟨rfl, -⟩ := Prod.mk.inj (Option.some.inj h)
  exact .float _

theorem givesProper_readSpecialFloat : GivesProper readSpecialFloat := by
  intro s v rest h
  simp only [readSpecialFloat] at h
  split at h
  · obtain ⟨rfl, -⟩ := Prod.mk.inj (Option.some.inj h)
    exact .float _
  · obtain ⟨_, -, heq⟩ := Option.map_eq_some_iff.mp h
    obtain ⟨rfl, -⟩ := Prod.mk.inj heq
    exact .float _

theorem givesProper_readDateTime : GivesProper readDateTime := by
  intro s v rest h
  rw [readDateTime] at h
  split at h
  · simp only [bind, Option.bind_eq_some_iff] at h
    obtain ⟨_, -, heq⟩ := h
    obtain ⟨rfl, -⟩ := Prod.mk.inj (Option.some.inj heq)
    exact .dateTime _
  · exact GivesProper.map .dateTime readTime s v rest h

theorem givesProper_readNumeric : GivesProper readNumeric := by
  intro s v rest h
  simp only [readNumeric, Option.or_eq_some_iff] at h
  obtain h | ⟨-, h | ⟨-, h | ⟨-, h⟩⟩⟩ := h
  · exact givesProper_readDateTime s v rest h
  · exact givesProper_readDecimalFloat s v rest h
  · exact givesProper_readSpecialFloat s v rest h
  · exact givesProper_readInteger s v rest h

theorem givesProper_readScalar : GivesProper readScalar := by
  intro s v rest h
  rw [readScalar] at h
  split at h
  · cases h
  · split_ifs at h
    · exact GivesProper.map (fun cs => .text (.ofList cs)) readText s v rest h
    · obtain ⟨_, -, heq⟩ := Option.map_eq_some_iff.mp h
      exact (Prod.mk.inj heq).1 ▸ .boolean true
    · obtain ⟨_, -, heq⟩ := Option.map_eq_some_iff.mp h
      exact (Prod.mk.inj heq).1 ▸ .boolean false
    · exact givesProper_readSpecialFloat s v rest h
    · exact givesProper_readNumeric s v rest h

section Nested

variable {item : Reader Value} (hitem : GivesProper item)

include hitem

theorem GivesProper.readItems {fuel : Nat} {s rest : List Char} {vs : List Value}
    (h : readItems item fuel s = some (vs, rest)) : ∀ v ∈ vs, v.IsProper := by
  induction fuel generalizing s vs with
  | zero => cases h
  | succ fuel ih =>
    simp only [Toml.readItems, bind, Option.bind_eq_some_iff] at h
    obtain ⟨_, -, h⟩ := h
    split at h
    · obtain ⟨rfl, -⟩ := Prod.mk.inj (Option.some.inj h)
      exact fun v hv => absurd hv List.not_mem_nil
    obtain ⟨⟨first, _⟩, hfirst, h⟩ := Option.bind_eq_some_iff.mp h
    obtain ⟨_, -, h⟩ := Option.bind_eq_some_iff.mp h
    have hproper := hitem _ _ _ hfirst
    split at h
    · obtain ⟨⟨more, _⟩, hmore, heq⟩ := Option.bind_eq_some_iff.mp h
      obtain ⟨rfl, rfl⟩ := Prod.mk.inj (Option.some.inj heq)
      exact List.forall_mem_cons.mpr ⟨hproper, ih hmore⟩
    · obtain ⟨rfl, -⟩ := Prod.mk.inj (Option.some.inj h)
      exact List.forall_mem_singleton.mpr hproper
    · cases h

theorem GivesProper.readPair {s rest : List Char} {path : List String × String} {v : Value}
    (h : readPair item s = some ((path, v), rest)) : v.IsProper := by
  simp only [Toml.readPair, bind, Option.bind_eq_some_iff] at h
  obtain ⟨_, -, _, -, _, hv, heq⟩ := h
  obtain ⟨hpair, -⟩ := Prod.mk.inj (Option.some.inj heq)
  exact (Prod.mk.inj hpair).2 ▸ hitem _ _ _ hv

theorem GivesProper.readPairs {fuel : Nat} {entries entries' : List (String × Draft)}
    {s rest : List Char} (hentries : Draft.AreProper entries)
    (h : readPairs item fuel entries s = some (entries', rest)) : Draft.AreProper entries' := by
  induction fuel generalizing entries s with
  | zero => cases h
  | succ fuel ih =>
    simp only [Toml.readPairs, bind, Option.bind_eq_some_iff] at h
    obtain ⟨_, hpair, entries₁, hinsert, h⟩ := h
    have hproper := hentries.insertDotted (hitem.readPair hpair) hinsert
    split at h
    · exact ih hproper h
    · obtain ⟨rfl, -⟩ := Prod.mk.inj (Option.some.inj h)
      exact hproper
    · cases h

end Nested

theorem givesProper_readValue (depth : Nat) : GivesProper (readValue depth) := by
  induction depth with
  | zero => exact givesProper_readScalar
  | succ depth ih =>
    intro s v rest h
    rw [readValue.eq_def] at h
    simp only at h
    split at h
    · obtain ⟨_, hitems, heq⟩ := Option.map_eq_some_iff.mp h
      exact (Prod.mk.inj heq).1 ▸ .array (ih.readItems hitems)
    · split at h
      · obtain ⟨rfl, -⟩ := Prod.mk.inj (Option.some.inj h)
        exact Draft.areProper_nil.finishEntries
      · obtain ⟨_, hpairs, heq⟩ := Option.map_eq_some_iff.mp h
        exact (Prod.mk.inj heq).1 ▸ (ih.readPairs Draft.areProper_nil hpairs).finishEntries
    · exact givesProper_readScalar s v rest h

/-! ### Lines -/

theorem areProper_of_readLine {p p' : Progress} {s rest : List Char}
    (hp : Draft.AreProper p.entries) (h : readLine p s = some (p', rest)) :
    Draft.AreProper p'.entries := by
  rw [readLine.eq_def] at h
  split at h
  · simp only [bind, Option.bind_eq_some_iff] at h
    obtain ⟨_, -, _, -, _, -, entries, hentries, heq⟩ := h
    obtain ⟨rfl, -⟩ := Prod.mk.inj (Option.some.inj heq)
    exact hp.atPath (fun _ _ => Draft.AreProper.openElement) hentries
  · simp only [bind, Option.bind_eq_some_iff] at h
    obtain ⟨_, -, _, -, _, -, entries, hentries, heq⟩ := h
    obtain ⟨rfl, -⟩ := Prod.mk.inj (Option.some.inj heq)
    exact hp.atPath (fun _ _ => Draft.AreProper.openTable) hentries
  · simp only [bind, Option.bind_eq_some_iff] at h
    obtain ⟨_, hpair, _, -, entries, hentries, heq⟩ := h
    obtain ⟨rfl, -⟩ := Prod.mk.inj (Option.some.inj heq)
    have hv := (givesProper_readValue _).readPair hpair
    exact hp.atPath (fun _ _ => Draft.AreProper.insertDotted hv) hentries

theorem areProper_of_readLines {fuel : Nat} {p p' : Progress} {s : List Char}
    (hp : Draft.AreProper p.entries) (h : readLines fuel p s = some p') :
    Draft.AreProper p'.entries := by
  induction fuel generalizing p s with
  | zero => cases h
  | succ fuel ih =>
    rw [readLines] at h
    split at h
    · exact Option.some.inj h ▸ hp
    · obtain ⟨_, -, h⟩ := Option.bind_eq_some_iff.mp h
      exact ih hp h
    · split at h
      · exact ih hp h
      · obtain ⟨_, hline, h⟩ := Option.bind_eq_some_iff.mp h
        exact ih (areProper_of_readLine hp hline) h

theorem isProper_of_readDocument {text : String} {entries : List (String × Value)}
    (h : readDocument text = some entries) : (Value.table entries).IsProper := by
  obtain ⟨p, hlines, rfl⟩ := Option.map_eq_some_iff.mp h
  exact (areProper_of_readLines Draft.areProper_nil hlines).finishEntries

end CommitLint.Toml
