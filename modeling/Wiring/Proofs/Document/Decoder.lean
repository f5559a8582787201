import Mathlib.Data.List.Nodup
import Wiring.Document.Decoder

/-!
# Document — Decoder

What is read from a draft and written again is read as it was. A decoder restores what it reads when
the written form of each of its results is read as this result, in every format. Lists, options,
variants and records restore what they hold when their parts do; for a record this takes nothing but
the names of its fields to be different and the defaults to be readable.
-/

namespace Wiring

/-! ## Outcomes -/

section Outcomes

variable {ε ε' α β : Type}

theorem ok_of_map {x : Except ε α} {f : α → β} {b : β} (h : x.map f = .ok b) :
    ∃ a, x = .ok a ∧ f a = b := by
  cases x with
  | error => nomatch h
  | ok a => exact ⟨a, rfl, Except.ok.inj h⟩

theorem ok_of_bind {x : Except ε α} {f : α → Except ε β} {b : β} (h : x >>= f = .ok b) :
    ∃ a, x = .ok a ∧ f a = .ok b := by
  cases x with
  | error => nomatch h
  | ok a => exact ⟨a, rfl, h⟩

theorem ok_of_mapError {x : Except ε α} {f : ε → ε'} {a : α} (h : x.mapError f = .ok a) :
    x = .ok a := by
  cases x with
  | error => nomatch h
  | ok a => exact congrArg _ (Except.ok.inj h)

theorem ok_of_upTo {stop : Option ReadFault} {a a' : α} (h : Draft.upTo stop a = .ok a') :
    a = a' := by
  cases stop with
  | none => exact Except.ok.inj h
  | some => nomatch h

end Outcomes

namespace Decoder

variable {α β : Type}

/-- A value is read as a result in every format. -/
def Reads (d : Decoder α) (v : Value) (a : α) : Prop := ∀ format, d.ofValue format v = .ok a

/-- Whatever is read has a property. -/
def Produces (d : Decoder α) (P : α → Prop) : Prop :=
  ∀ format draft a, d format draft = .ok a → P a

/-- Whatever is read is read again from its written form. -/
def Restores (d : Decoder α) (write : α → Value) : Prop := d.Produces fun a => d.Reads (write a) a

variable {d : Decoder α} {write : α → Value} {P : α → Prop} {Q : β → Prop}

theorem restores_of_reads (h : ∀ a, d.Reads (write a) a) : d.Restores write := fun _ _ a _ => h a

theorem Produces.imp {P' : α → Prop} (h : d.Produces P) (weaker : ∀ a, P a → P' a) :
    d.Produces P' := fun format draft a read => weaker a (h format draft a read)

theorem Produces.map {f : α → β} (h : d.Produces P) (mapped : ∀ a, P a → Q (f a)) :
    Produces (fun format draft => (d format draft).map f) Q := by
  intro format draft b read
  obtain ⟨a, first, rfl⟩ := ok_of_map read
  exact mapped a (h format draft a first)

theorem Reads.map {v : Value} {a : α} (h : d.Reads v a) (f : α → β) :
    Reads (fun format draft => (d format draft).map f) v (f a) := by
  intro format
  show (d.ofValue format v).map f = _
  rw [h format, Except.map]

/-! ## Scalars -/

theorem bool_restores : bool.Restores .bool := restores_of_reads fun _ _ => rfl

theorem string_restores : string.Restores .str := restores_of_reads fun _ _ => rfl

theorem intBetween_reads {low high n : Int} (h : low ≤ n ∧ n ≤ high) :
    (intBetween low high).Reads (.int n) n := fun _ => if_pos h

theorem intBetween_produces (low high : Int) :
    (intBetween low high).Produces fun n => low ≤ n ∧ n ≤ high := by
  intro format draft n read
  cases draft with
  | int m =>
    rw [intBetween] at read
    split at read
    · next inside => exact Except.ok.inj read ▸ inside
    · nomatch read
  | _ => nomatch read

theorem int32_restores : int32.Restores fun n => .int n.toInt := by
  refine restores_of_reads fun n => ?_
  have read := (intBetween_reads ⟨n.minValue_le_toInt, n.toInt_le⟩).map Int32.ofInt
  rwa [Int32.ofInt_toInt] at read

theorem nat_reads {n : Nat} (h : n < UInt64.size) : nat.Reads (.ofNat n) n := by
  have inside : (0 : Int) ≤ n ∧ (n : Int) ≤ (UInt64.size - 1 : Nat) := by omega
  exact (intBetween_reads inside).map Int.toNat

theorem nat_produces : nat.Produces fun n => n < UInt64.size :=
  Produces.map (intBetween_produces _ _) fun n inside => by
    have some : 0 < UInt64.size := by decide
    obtain ⟨_, high⟩ := inside
    omega

theorem nat_restores : nat.Restores .ofNat := nat_produces.imp fun _ => nat_reads

/-! ## Options and lists -/

theorem option_produces (h : d.Produces P) :
    (option d).Produces fun a => ∀ a' ∈ a, P a' := by
  intro format draft a read
  rw [option.eq_def] at read
  split at read
  · obtain rfl := Except.ok.inj read
    nofun
  · nomatch read
  · have some : Produces (fun format draft => (d format draft).map some) fun a =>
        ∀ a' ∈ a, P a' :=
      h.map fun a holds _ mem => Option.some.inj mem ▸ holds
    exact some format draft a read

/-- A written form that is not null may stand for a result, since null stands for none. -/
theorem option_reads_some {v : Value} {a : α} (h : d.Reads v a) (present : v ≠ .null) :
    (option d).Reads v (some a) := by
  intro format
  have read := h.map some format
  cases v with
  | null => exact absurd rfl present
  | _ => exact read

theorem none_reads (d : Decoder α) : (option d).Reads .null none := fun _ => rfl

theorem option_restores (h : d.Restores write) (present : ∀ a, write a ≠ .null) :
    (option d).Restores (.ofOption write) := by
  intro format draft a read
  have reads := option_produces h format draft a read
  cases a with
  | none => exact none_reads d
  | some a => exact option_reads_some (reads a rfl) (present a)

theorem all_produces {format : Format} {drafts : List Draft} {as : List α} (h : d.Produces P)
    (read : all d format drafts = .ok as) : ∀ a ∈ as, P a := by
  induction drafts generalizing as with
  | nil =>
    obtain rfl := Except.ok.inj read
    nofun
  | cons draft more ih =>
    rw [all] at read
    split at read
    · nomatch read
    · next a first =>
      obtain ⟨as', rest, rfl⟩ := ok_of_map read
      exact List.forall_mem_cons.2 ⟨h format draft a first, ih rest⟩

theorem list_produces (h : d.Produces P) : (list d).Produces fun as => ∀ a ∈ as, P a := by
  intro format draft as read
  cases draft with
  | list items stop =>
    obtain ⟨as', each, ended⟩ := ok_of_bind read
    obtain rfl := ok_of_upTo ended
    exact all_produces h each
  | _ => nomatch read

theorem all_draftItems {as : List α} (h : ∀ a ∈ as, d.Reads (write a) a) (format : Format) :
    all d format (Value.draftItems (as.map write)) = .ok as := by
  induction as with
  | nil => rfl
  | cons a as ih =>
    obtain ⟨first, rest⟩ := List.forall_mem_cons.1 h
    have first : d format (write a).draft = .ok a := first format
    rw [List.map_cons, Value.draftItems, all, first, ih rest]
    rfl

theorem nil_reads (d : Decoder α) : (list d).Reads (.list []) [] := fun _ => rfl

theorem list_restores (h : d.Restores write) :
    (list d).Restores fun as => .list (as.map write) := by
  intro format draft as read format'
  have each : ∀ a ∈ as, d.Reads (write a) a := list_produces h format draft as read
  show (do Draft.upTo none (← all d format' (Value.draftItems (as.map write)))) = .ok as
  rw [all_draftItems each]
  rfl

/-! ## Variants -/

theorem named_restores {ofName? : String → Option α} {name : α → String}
    (known : ∀ a, ofName? (name a) = some a) : (named ofName?).Restores fun a => .str (name a) := by
  refine restores_of_reads fun a format => ?_
  show named ofName? format (.str (name a)) = _
  simp only [named, variant, known, Option.map_some]

variable {cases : String → Option (Variant α)}

theorem variant_reads {name : String} {p : Decoder α} {v : Value} {a : α}
    (case : cases name = some (.payload p)) (h : p.Reads v a) :
    (variant cases).Reads (.record [(name, v)]) a := by
  intro format
  show onlyEntry cases format [(.text name, v.draft)] none = _
  have inside : p format v.draft = .ok a := h format
  rw [onlyEntry, case]
  dsimp only
  rw [inside]
  rfl

theorem variant_produces (plain : ∀ name a, cases name = some (.plain a) → P a)
    (payload : ∀ name p, cases name = some (.payload p) → p.Produces P) :
    (variant cases).Produces P := by
  intro format draft a read
  have closed {a' : α} {stop : Option ReadFault} {more : List (Key × Draft)}
      (h : closing a' stop more = .ok a) : a' = a := by
    cases more with
    | nil => exact ok_of_upTo h
    | cons => nomatch h
  rw [variant.eq_def] at read
  -- A name alone must be of a plain case; with an entry it may be of either kind.
  split at read
  · split at read
    · next a' case =>
      obtain rfl := Except.ok.inj read
      exact plain _ _ case
    · nomatch read
  · next entries stop =>
    rw [onlyEntry.eq_def] at read
    split at read
    · nomatch read
    · nomatch read
    · nomatch read
    · next name d more =>
      split at read
      · nomatch read
      · next a' case =>
        obtain ⟨-, -, read⟩ := ok_of_bind read
        exact closed read ▸ plain _ _ case
      · next p case =>
        obtain ⟨a', inside, read⟩ := ok_of_bind read
        exact closed read ▸ payload _ _ case _ _ _ inside
  · nomatch read
  · nomatch read
  · nomatch read

end Decoder

namespace RecordDecoder

variable {α β ι κ : Type}

/-- Fields stand among some entries, each as the first entry with its name. -/
def Holds (entries : List (Key × Draft)) (fields : List (String × Value)) : Prop :=
  ∀ field ∈ fields, ∃ i, locate field.1 0 entries = some (i, field.2.draft)

/-- Whatever is read of a record is one of certain results, and each of these is read from its
fields. -/
structure Covers (r : RecordDecoder α) (value : ι → α) (fields : ι → List (String × Value)) :
    Prop where
  names : ∀ i, (fields i).map (·.1) = r.names
  run : ∀ format entries a, r.run format entries = .ok a → ∃ i, value i = a ∧
    ∀ format entries, Holds entries (fields i) → r.run format entries = .ok (value i)

/-! ### Fields one after the other -/

section Fields

variable {r : RecordDecoder α} {value : ι → α} {fields : ι → List (String × Value)}

theorem fieldOr_covers {name : String} {missing : Option α} {d : Decoder α} {write : α → Value}
    (h : d.Restores write) (default : ∀ a ∈ missing, d.Reads (write a) a) :
    Covers (fieldOr name missing d) id fun a => [(name, write a)] where
  names _ := rfl
  run format entries a read := by
    have reads : d.Reads (write a) a := by
      simp only [fieldOr] at read
      split at read
      · exact h _ _ a (ok_of_mapError read)
      · obtain rfl := Except.ok.inj read
        exact default _ rfl
      · nomatch read
    refine ⟨a, rfl, fun format entries there => ?_⟩
    obtain ⟨i, found⟩ := there (name, write a) List.mem_cons_self
    have inside : d format (write a).draft = .ok a := reads format
    simp only [fieldOr, found, inside]
    rfl

theorem field_covers {name : String} {d : Decoder α} {write : α → Value} (h : d.Restores write) :
    Covers (field name d) id fun a => [(name, write a)] := fieldOr_covers h nofun

theorem optional_covers {name : String} {default : α} {d : Decoder α} {write : α → Value}
    (h : d.Restores write) (readable : d.Reads (write default) default) :
    Covers (optional name default d) id fun a => [(name, write a)] :=
  fieldOr_covers h fun _ mem => Option.some.inj mem ▸ readable

theorem Covers.seq {f : RecordDecoder (α → β)} {function : κ → α → β}
    {others : κ → List (String × Value)} (hf : Covers f function others)
    (h : Covers r value fields) :
    Covers (f <*> r) (fun i : κ × ι => function i.1 (value i.2))
      fun i => others i.1 ++ fields i.2 where
  names i := by
    rw [List.map_append, hf.names, h.names]
    rfl
  run format entries b read := by
    have read : (f.apply r).run format entries = .ok b := read
    rw [apply] at read
    dsimp only at read
    split at read
    · next g a first second =>
      obtain rfl := Except.ok.inj read
      obtain ⟨j, rfl, readFirst⟩ := hf.run format entries g first
      obtain ⟨i, rfl, readSecond⟩ := h.run format entries a second
      refine ⟨(j, i), rfl, fun format entries there => ?_⟩
      obtain ⟨there, there'⟩ := List.forall_mem_append.1 there
      show (f.apply r).run format entries = _
      simp only [apply, readFirst format entries there, readSecond format entries there']
    · nomatch read
    · nomatch read
    · nomatch read

theorem run_map (f : α → β) (r : RecordDecoder α) (format : Format)
    (entries : List (Key × Draft)) :
    (f <$> r).run format entries = (r.run format entries).map f := by
  show ((pure f : RecordDecoder (α → β)).apply r).run format entries = _
  rw [apply]
  dsimp only
  cases r.run format entries <;> rfl

theorem Covers.map (h : Covers r value fields) (f : α → β) :
    Covers (f <$> r) (fun i => f (value i)) fields where
  names := h.names
  run format entries b read := by
    rw [run_map] at read
    obtain ⟨a, inside, rfl⟩ := ok_of_map read
    obtain ⟨i, rfl, reads⟩ := h.run format entries a inside
    refine ⟨i, rfl, fun format entries there => ?_⟩
    rw [run_map, reads format entries there]
    rfl

/-! ### Whole records -/

theorem locate_draftFields {fields : List (String × Value)} (nodup : (fields.map (·.1)).Nodup)
    (position : Nat) : ∀ field ∈ fields,
      ∃ i, locate field.1 position (Value.draftFields fields) = some (i, field.2.draft) := by
  induction fields generalizing position with
  | nil => nofun
  | cons first more ih =>
    rw [List.map_cons, List.nodup_cons] at nodup
    intro field mem
    rw [Value.draftFields.eq_def]
    dsimp only
    rw [locate]
    rcases List.mem_cons.1 mem with rfl | later
    · exact ⟨position, if_pos rfl⟩
    · have other : first.1 ≠ field.1 := fun same =>
        nodup.1 (same ▸ List.mem_map_of_mem later)
      rw [if_neg other]
      exact ih nodup.2 (position + 1) field later

/-- Nothing is wrong with the entries of a record of fields with different names. -/
theorem strayFault_draftFields {names seen : List String} {fields : List (String × Value)}
    (known : ∀ field ∈ fields, field.1 ∈ names) (nodup : (fields.map (·.1)).Nodup)
    (new : ∀ field ∈ fields, field.1 ∉ seen) (position : Nat) :
    strayFault names none position seen (Value.draftFields fields) = none := by
  induction fields generalizing position seen with
  | nil => rfl
  | cons first more ih =>
    rw [List.map_cons, List.nodup_cons] at nodup
    obtain ⟨isName, known⟩ := List.forall_mem_cons.1 known
    obtain ⟨isNew, new⟩ := List.forall_mem_cons.1 new
    rw [Value.draftFields.eq_def]
    dsimp only
    rw [strayFault, if_pos isName, if_neg isNew]
    refine ih known nodup.2 (fun field mem => ?_) (position + 1)
    rw [List.mem_cons, not_or]
    exact ⟨fun same => nodup.1 (same ▸ List.mem_map_of_mem mem), new field mem⟩

theorem decode_produces {P : α → Prop}
    (h : ∀ format entries a, r.run format entries = .ok a → P a) : r.decode.Produces P := by
  have settled {stray : Option (Nat × ReadFault)} {outcome : Except (Nat × ReadFault) α} {a : α}
      (read : settle stray outcome = .ok a) : outcome = .ok a := by
    cases outcome with
    | error => cases stray <;> nomatch read
    | ok a' =>
      cases stray with
      | some => nomatch read
      | none => exact congrArg _ (Except.ok.inj read)
  intro format draft a read
  rw [decode.eq_def] at read
  split at read
  · exact h _ _ a (settled read)
  · exact h _ _ a (settled read)
  · exact h _ _ a (settled read)
  · nomatch read

theorem payload_produces {P : α → Prop} (h : r.decode.Produces P) : r.payload.Produces P := by
  intro format draft a read
  unfold payload at read
  split at read
  · split at read
    · exact h _ _ a read
    · nomatch read
  · split at read
    · nomatch read
    · exact h _ _ a read
  · exact h _ _ a read

theorem isClosed_draftFields {fields : List (String × Value)}
    (known : ∀ field ∈ fields, field.1 ∈ r.names) : r.isClosed (Value.draftFields fields) := by
  rw [isClosed, List.all_eq_true]
  induction fields with
  | nil => nofun
  | cons first more ih =>
    obtain ⟨isName, known⟩ := List.forall_mem_cons.1 known
    rw [Value.draftFields.eq_def]
    exact List.forall_mem_cons.2 ⟨decide_eq_true isName, ih known⟩

namespace Covers

theorem isName (h : Covers r value fields) (i : ι) : ∀ field ∈ fields i, field.1 ∈ r.names :=
  fun _ mem => h.names i ▸ List.mem_map_of_mem mem

theorem decode_reads (h : Covers r value fields) (nodup : r.names.Nodup) {i : ι}
    (reads : ∀ format entries, Holds entries (fields i) → r.run format entries = .ok (value i)) :
    r.decode.Reads (.record (fields i)) (value i) := by
  intro format
  have different : ((fields i).map (·.1)).Nodup := h.names i ▸ nodup
  show settle (strayFault r.names none 0 [] (Value.draftFields (fields i)))
    (r.run format (Value.draftFields (fields i))) = _
  rw [strayFault_draftFields (h.isName i) different (fun _ _ => List.not_mem_nil),
    reads format _ (locate_draftFields different 0)]
  rfl

/-- Whatever is read as a record is read again from its fields. -/
theorem decode (h : Covers r value fields) (nodup : r.names.Nodup) :
    r.decode.Produces fun a => ∃ i, value i = a ∧ r.decode.Reads (.record (fields i)) a := by
  refine decode_produces fun format entries a read => ?_
  obtain ⟨i, rfl, reads⟩ := h.run format entries a read
  exact ⟨i, rfl, h.decode_reads nodup reads⟩

theorem payload (h : Covers r value fields) (nodup : r.names.Nodup) :
    r.payload.Produces fun a => ∃ i, value i = a ∧ r.payload.Reads (.record (fields i)) a := by
  intro format draft a read
  obtain ⟨i, same, reads⟩ := payload_produces (h.decode nodup) format draft a read
  refine ⟨i, same, fun format' => ?_⟩
  have closed := isClosed_draftFields (h.isName i)
  show (if format'.closedVariants && !r.isClosed (Value.draftFields (fields i)) then _
    else r.decode format' (.record (Value.draftFields (fields i)) none)) = _
  rw [closed, Bool.not_true, Bool.and_false, if_neg Bool.false_ne_true]
  exact reads format'

theorem restores {write : α → Value} (h : Covers r value fields) (nodup : r.names.Nodup)
    (written : ∀ i, write (value i) = .record (fields i)) : r.decode.Restores write := by
  intro format draft a read
  obtain ⟨i, rfl, reads⟩ := h.decode nodup format draft a read
  rw [written i]
  exact reads

end Covers

end Fields

end RecordDecoder

end Wiring
