import Switchboard.Proofs.Json.Contents
import Switchboard.Settings.Document

/-! Settings read from a document. A document is accepted just when it says each setting once, as a
natural number in range, and what else it holds makes no difference. -/

namespace Switchboard.Settings

open Json Shape

inductive Key
  | rMin
  | rMax
  | operators
  | queueSize
deriving DecidableEq

namespace Key

def all : List Key := [rMin, rMax, operators, queueSize]

def name : Key → String
  | rMin => "RMin"
  | rMax => "RMax"
  | operators => "AmountOfOperators"
  | queueSize => "SizeOfQueue"

def limit : Key → Nat
  | rMin | rMax => UInt32.size
  | operators | queueSize => UInt64.size

def value (v : Settings) : Key → Nat
  | rMin => v.rMin.toNat
  | rMax => v.rMax.toNat
  | operators => v.operators.toNat
  | queueSize => v.queueSize.toNat

def get (d : Draft) : Key → Option Nat
  | rMin => d.rMin.map UInt32.toNat
  | rMax => d.rMax.map UInt32.toNat
  | operators => d.operators.map UInt64.toNat
  | queueSize => d.queueSize.map UInt64.toNat

def put (d : Draft) (n : Nat) : Key → Draft
  | rMin => { d with rMin := some (UInt32.ofNat n) }
  | rMax => { d with rMax := some (UInt32.ofNat n) }
  | operators => { d with operators := some (UInt64.ofNat n) }
  | queueSize => { d with queueSize := some (UInt64.ofNat n) }

def field (k : Key) : Json.Field Draft where
  name := k.name
  isSet d := (k.get d).isSome
  read d s := (natural k.limit s).map fun (n, r) => (k.put d n, r)

variable {d w : Draft} {n : Nat} {k k' : Key} {v : Settings}

lemma mem_all (k : Key) : k ∈ all := by cases k <;> decide

lemma isPlain_of_mem_name (k : Key) : ∀ c ∈ k.name.toList, IsPlain c := by cases k <;> decide

lemma limit_le (k : Key) : k.limit ≤ UInt64.size := by cases k <;> decide

lemma value_lt (v : Settings) (k : Key) : k.value v < k.limit := by
  cases k with
  | rMin => exact v.rMin.toNat_lt
  | rMax => exact v.rMax.toNat_lt
  | operators => exact v.operators.toNat_lt
  | queueSize => exact v.queueSize.toNat_lt

lemma get_put (hn : n < k.limit) : k.get (k.put d n) = some n := by
  cases k with
  | rMin | rMax => exact congrArg some (UInt32.toNat_ofNat_of_lt' hn)
  | operators | queueSize => exact congrArg some (UInt64.toNat_ofNat_of_lt' hn)

lemma get_put_of_ne (h : k' ≠ k) : k'.get (k.put d n) = k'.get d := by
  cases k <;> cases k' <;> first | rfl | exact absurd rfl h

lemma lt_of_get (h : k.get d = some n) : n < k.limit := by
  cases k with
  | rMin | rMax =>
    obtain ⟨x, -, rfl⟩ := Option.map_eq_some_iff.1 h
    exact x.toNat_lt
  | operators | queueSize =>
    obtain ⟨x, -, rfl⟩ := Option.map_eq_some_iff.1 h
    exact x.toNat_lt

lemma draft_ext (h : ∀ k : Key, k.get d = k.get w) : d = w := by
  have inj32 := Option.map_injective (f := UInt32.toNat) fun _ _ => UInt32.toNat_inj.1
  have inj64 := Option.map_injective (f := UInt64.toNat) fun _ _ => UInt64.toNat_inj.1
  obtain ⟨x, y, o, q⟩ := d
  obtain ⟨x', y', o', q'⟩ := w
  obtain rfl : x = x' := inj32 (h rMin)
  obtain rfl : y = y' := inj32 (h rMax)
  obtain rfl : o = o' := inj64 (h operators)
  obtain rfl : q = q' := inj64 (h queueSize)
  rfl

def drafted (v : Settings) : Draft := ⟨some v.rMin, some v.rMax, some v.operators, some v.queueSize⟩

lemma get_drafted (v : Settings) (k : Key) : k.get (drafted v) = some (k.value v) := by
  cases k <;> rfl

lemma finish_eq_some : d.finish = some v ↔ ∀ k : Key, k.get d = some (k.value v) := by
  constructor
  · intro h
    obtain ⟨x, hx, h⟩ := Option.bind_eq_some_iff.1 h
    obtain ⟨y, hy, h⟩ := Option.bind_eq_some_iff.1 h
    obtain ⟨o, ho, h⟩ := Option.bind_eq_some_iff.1 h
    obtain ⟨q, hq, h⟩ := Option.bind_eq_some_iff.1 h
    cases h
    obtain rfl : d = drafted ⟨x, y, o, q⟩ := by
      cases d
      simp_all [drafted]
    exact get_drafted _
  · intro h
    obtain rfl : d = drafted v := draft_ext fun k => by rw [h, get_drafted]
    rfl

lemma readWord_map {α : Type} (f : UInt32 × List Char → α) (s : List Char) :
    (Draft.readWord s).map f =
      (natural UInt32.size s).map fun p => f (UInt32.ofNat p.1, p.2) := by
  rw [Draft.readWord]
  cases natural UInt32.size s <;> rfl

lemma readSize_map {α : Type} (f : UInt64 × List Char → α) (s : List Char) :
    (Draft.readSize s).map f =
      (natural UInt64.size s).map fun p => f (UInt64.ofNat p.1, p.2) := by
  rw [Draft.readSize]
  cases natural UInt64.size s <;> rfl

lemma fields_eq : shape.fields = all.map field := by
  simp [shape, all, field, name, get, limit, put, readWord_map, readSize_map]

lemma find_name (k : Key) : all.find? (fun k' => k'.name.toList == k.name.toList) = some k := by
  cases k <;> decide

lemma find_field (k : Key) :
    shape.fields.find? (fun f => f.name.toList == k.name.toList) = some k.field := by
  rw [fields_eq, List.find?_map]
  exact congrArg (Option.map field) (find_name k)

lemma find_field_eq_some {name : List Char} {f : Json.Field Draft}
    (h : shape.fields.find? (fun f => f.name.toList == name) = some f) :
    ∃ k : Key, name = k.name.toList ∧ f = k.field := by
  have hname := List.find?_some h
  have hmem := List.mem_of_find?_eq_some h
  rw [fields_eq] at hmem
  obtain ⟨k, -, rfl⟩ := List.mem_map.1 hmem
  exact ⟨k, (eq_of_beq hname).symm, rfl⟩

lemma field_reads (k : Key) (d : Draft) : Reads (k.field.read d) fun V w =>
    ∃ n, (n < k.limit ∧ V = Decimal.digits n) ∧ k.put d n = w :=
  (natural_reads k.limit_le).map fun n => k.put d n

end Key

variable {d w : Draft} {v : Settings} {k : Key} {V : List Char} {m : List Char × List Char}
  {ms : List (List Char × List Char)}

lemma readsFields : shape.ReadsFields := by
  intro f hf d
  rw [Key.fields_eq] at hf
  obtain ⟨k, -, rfl⟩ := List.mem_map.1 hf
  exact (k.field_reads d).self

def Key.members (k : Key) (ms : List (List Char × List Char)) : List (List Char × List Char) :=
  ms.filter fun m => m.1 = k.name.toList

def Key.Fills (k : Key) (d : Draft) (ms : List (List Char × List Char)) (w : Draft) : Prop :=
  (k.members ms = [] ∧ k.get w = k.get d) ∨
    ∃ n < k.limit, k.get d = none ∧ k.get w = some n ∧
      k.members ms = [(k.name.toList, Decimal.digits n)]

lemma takes_iff : shape.Takes d m w ↔
    (∃ k : Key, ∃ n < k.limit, m = (k.name.toList, Decimal.digits n) ∧ k.get d = none ∧
      w = k.put d n) ∨
    ((∀ k : Key, m.1 ≠ k.name.toList) ∧ IsValue m.2 ∧ w = d) := by
  constructor
  · intro h
    cases h with
    | field hf hset hV =>
      obtain ⟨k, rfl, rfl⟩ := Key.find_field_eq_some hf
      obtain ⟨n, ⟨hn, rfl⟩, rfl⟩ := (k.field_reads d).reading_iff.1 hV
      exact .inl ⟨k, n, hn, rfl, Option.not_isSome_iff_eq_none.1 (Bool.eq_false_iff.1 hset), rfl⟩
    | other hf _ hV =>
      refine .inr ⟨?_, hV, rfl⟩
      rintro k rfl
      rw [Key.find_field] at hf
      cases hf
  · rintro (⟨k, n, hn, rfl, hd, rfl⟩ | ⟨hm, hV, rfl⟩)
    · exact .field k.find_field (congrArg Option.isSome hd)
        ((k.field_reads d).reading_iff.2 ⟨n, ⟨hn, rfl⟩, rfl⟩)
    · refine .other (k := m.1) (V := m.2) ?_ rfl hV
      cases hfind : shape.fields.find? (fun f => f.name.toList == m.1) with
      | none => rfl
      | some f =>
        obtain ⟨k, hk, -⟩ := Key.find_field_eq_some hfind
        exact absurd hk (hm k)

lemma Key.name_inj {k k' : Key} (h : k.name.toList = k'.name.toList) : k = k' := by
  have hfind := k.find_name
  rw [h, k'.find_name] at hfind
  exact (Option.some.inj hfind).symm

lemma Key.members_own (k : Key) (V : List Char) (ms : List (List Char × List Char)) :
    k.members ((k.name.toList, V) :: ms) = (k.name.toList, V) :: k.members ms :=
  List.filter_cons_of_pos (by simp)

lemma Key.members_other (h : m.1 ≠ k.name.toList) : k.members (m :: ms) = k.members ms :=
  List.filter_cons_of_neg (by simpa using h)

lemma fills_other (hm : ∀ k : Key, m.1 ≠ k.name.toList) (k : Key) :
    k.Fills d (m :: ms) w ↔ k.Fills d ms w := by
  rw [Key.Fills, Key.members_other (hm k), Key.Fills]

lemma fills_own :
    (∀ k' : Key, k'.Fills d ((k.name.toList, V) :: ms) w) ↔
      ∃ n < k.limit, V = Decimal.digits n ∧ k.get d = none ∧
        ∀ k' : Key, k'.Fills (k.put d n) ms w := by
  -- The member says one setting. For the others only the rest of the members counts.
  have other {k' : Key} {n : Nat} (h : k' ≠ k) :
      k'.Fills d ((k.name.toList, V) :: ms) w ↔ k'.Fills (k.put d n) ms w := by
    rw [Key.Fills, Key.members_other (fun hname => h (Key.name_inj hname).symm), Key.Fills,
      Key.get_put_of_ne h]
  constructor
  · intro h
    obtain ⟨hnil, -⟩ | ⟨n, hn, hd, hw, hmembers⟩ := h k
    · rw [Key.members_own] at hnil
      cases hnil
    · rw [Key.members_own] at hmembers
      obtain ⟨hV, hnil⟩ := List.cons.inj hmembers
      refine ⟨n, hn, congrArg Prod.snd hV, hd, fun k' => ?_⟩
      by_cases hk : k' = k
      · subst hk
        exact .inl ⟨hnil, by rw [hw, Key.get_put hn]⟩
      · exact (other hk).1 (h k')
  · rintro ⟨n, hn, rfl, hd, h⟩ k'
    by_cases hk : k' = k
    · subst hk
      obtain ⟨hnil, hw⟩ | ⟨n', -, hput, -⟩ := h k'
      · exact .inr ⟨n, hn, hd, by rw [hw, Key.get_put hn], by rw [Key.members_own, hnil]⟩
      · rw [Key.get_put hn] at hput
        cases hput
    · exact (other hk).2 (h k')

lemma takesAll_iff :
    shape.TakesAll d ms w ↔ (∀ m ∈ ms, IsValue m.2) ∧ ∀ k : Key, k.Fills d ms w := by
  induction ms generalizing d with
  | nil =>
    constructor
    · intro h
      cases h
      exact ⟨nofun, fun k => .inl ⟨rfl, rfl⟩⟩
    · rintro ⟨-, h⟩
      obtain rfl : d = w := Key.draft_ext fun k => by
        obtain ⟨-, hw⟩ | ⟨n, -, -, -, hmembers⟩ := h k
        · exact hw.symm
        · cases hmembers
      exact .nil
  | cons m ms ih =>
    rw [List.forall_mem_cons]
    constructor
    · intro h
      obtain _ | ⟨hm, hms⟩ := h
      have hvalue := hm.isValue
      obtain ⟨hvalues, hfills⟩ := ih.1 hms
      refine ⟨⟨hvalue, hvalues⟩, ?_⟩
      obtain ⟨k, n, hn, rfl, hd, rfl⟩ | ⟨hother, -, rfl⟩ := takes_iff.1 hm
      · exact fills_own.2 ⟨n, hn, rfl, hd, hfills⟩
      · exact fun k => (fills_other hother k).2 (hfills k)
    · rintro ⟨⟨hvalue, hvalues⟩, h⟩
      by_cases hm : ∃ k : Key, m.1 = k.name.toList
      · obtain ⟨k, hk⟩ := hm
        obtain ⟨name, V⟩ := m
        subst hk
        obtain ⟨n, hn, rfl, hd, hfills⟩ := fills_own.1 h
        exact .cons (takes_iff.2 (.inl ⟨k, n, hn, rfl, hd, rfl⟩)) (ih.2 ⟨hvalues, hfills⟩)
      · have hother := not_exists.1 hm
        have hfills := ih.2 ⟨hvalues, fun k => (fills_other hother k).1 (h k)⟩
        exact .cons (takes_iff.2 (.inr ⟨hother, hvalue, rfl⟩)) hfills

lemma exists_takesAll_iff :
    (∃ w, shape.TakesAll shape.blank ms w ∧ shape.finish w = some v) ↔
      (∀ m ∈ ms, IsValue m.2) ∧
        ∀ k : Key, k.members ms = [(k.name.toList, Decimal.digits (k.value v))] := by
  have hblank (k : Key) : k.get shape.blank = none := by cases k <;> rfl
  constructor
  · rintro ⟨w, htakes, hw⟩
    obtain ⟨hvalues, hfills⟩ := takesAll_iff.1 htakes
    refine ⟨hvalues, fun k => ?_⟩
    have hk := Key.finish_eq_some.1 hw k
    obtain ⟨-, hget⟩ | ⟨n, -, -, hget, hmembers⟩ := hfills k
    · rw [hk, hblank] at hget
      cases hget
    · rw [hk] at hget
      rwa [Option.some.inj hget]
  · rintro ⟨hvalues, h⟩
    refine ⟨Key.drafted v, takesAll_iff.2 ⟨hvalues, fun k => .inr ?_⟩, rfl⟩
    exact ⟨k.value v, k.value_lt v, hblank k, k.get_drafted v, h k⟩

lemma takesList_iff {ks : List Key} {vs : List (List Char)} (hks : ks.Nodup) :
    TakesList (ks.map Key.field) d vs w ↔
      vs.map some = ks.map (fun k => (k.get w).map Decimal.digits) ∧
        ∀ k ∉ ks, k.get w = k.get d := by
  -- Each field is read once, so what it puts into the draft is still there at the end.
  induction ks generalizing d vs with
  | nil =>
    constructor
    · intro h
      cases h
      exact ⟨rfl, fun k _ => rfl⟩
    · rintro ⟨hvs, h⟩
      obtain rfl := List.map_eq_nil_iff.1 hvs
      obtain rfl : d = w := Key.draft_ext fun k => (h k List.not_mem_nil).symm
      exact .nil
  | cons k ks ih =>
    obtain ⟨hk, hks⟩ := List.nodup_cons.1 hks
    constructor
    · intro h
      obtain _ | ⟨hV, hvs⟩ := h
      obtain ⟨n, ⟨hn, rfl⟩, rfl⟩ := (k.field_reads d).reading_iff.1 hV
      obtain ⟨hvs, hrest⟩ := (ih hks).1 hvs
      have hget := hrest k hk
      rw [Key.get_put hn] at hget
      refine ⟨by rw [List.map_cons, List.map_cons, hget, hvs]; rfl, fun k' hk' => ?_⟩
      rw [List.mem_cons, not_or] at hk'
      rw [hrest k' hk'.2, Key.get_put_of_ne hk'.1]
    · rintro ⟨hvs, hrest⟩
      cases vs with
      | nil => cases hvs
      | cons V vs =>
        obtain ⟨hV, htail⟩ := List.cons.inj hvs
        obtain ⟨n, hget, rfl⟩ := Option.map_eq_some_iff.1 hV.symm
        have hn := Key.lt_of_get hget
        have hreading := (k.field_reads d).reading_iff.2 ⟨n, ⟨hn, rfl⟩, rfl⟩
        refine .cons hreading ((ih hks).2 ⟨htail, fun k' hk' => ?_⟩)
        by_cases hne : k' = k
        · subst hne
          rw [hget, Key.get_put hn]
        · rw [Key.get_put_of_ne hne]
          exact hrest k' (List.mem_cons.not.2 (not_or.2 ⟨hne, hk'⟩))

lemma exists_takesList_iff {vs : List (List Char)} :
    (∃ w, TakesList shape.fields shape.blank vs w ∧ shape.finish w = some v) ↔
      vs = Key.all.map fun k => Decimal.digits (k.value v) := by
  rw [Key.fields_eq]
  have hdrafted : (Key.all.map fun k => (k.get (Key.drafted v)).map Decimal.digits) =
      (Key.all.map fun k => Decimal.digits (k.value v)).map some := by
    rw [List.map_map]
    exact List.map_congr_left fun k _ => by rw [k.get_drafted]; rfl
  constructor
  · rintro ⟨w, htakes, hw⟩
    obtain rfl : w = Key.drafted v :=
      Key.draft_ext fun k => by rw [Key.finish_eq_some.1 hw, Key.get_drafted]
    have hvs := ((takesList_iff (by decide)).1 htakes).1
    rw [hdrafted] at hvs
    exact (List.map_inj_right fun _ _ => Option.some.inj).1 hvs
  · rintro rfl
    refine ⟨Key.drafted v, (takesList_iff (by decide)).2 ⟨hdrafted.symm, fun k hk => ?_⟩, rfl⟩
    exact absurd k.mem_all hk

variable {s s' : List Char}

lemma ofDocument_eq_ok :
    ofDocument s = .ok v ↔
      (∃ ms, HoldsObject ms s ∧
        ∀ k : Key, k.members ms = [(k.name.toList, Decimal.digits (k.value v))]) ∨
      HoldsList (Key.all.map fun k => Decimal.digits (k.value v)) s := by
  rw [ofDocument, (reads readsFields).document]
  constructor
  · rintro ⟨V, ⟨hV, hms, hv⟩ | ⟨hV, hvs, hv⟩, hs⟩
    · obtain ⟨hvalues, hmembers⟩ := exists_takesAll_iff.1 ⟨_, hms, hv⟩
      exact .inl ⟨_, ⟨V, hV, hs, hvalues⟩, hmembers⟩
    · obtain rfl := exists_takesList_iff.1 ⟨_, hvs, hv⟩
      exact .inr ⟨V, hV, hs, hvs.isValue⟩
  · rintro (⟨ms, ⟨V, hV, hs, hvalues⟩, hmembers⟩ | ⟨V, hV, hs, -⟩)
    · obtain ⟨w, hms, hw⟩ := exists_takesAll_iff.2 ⟨hvalues, hmembers⟩
      exact ⟨V, .object hV hms hw, hs⟩
    · obtain ⟨w, hvs, hw⟩ := exists_takesList_iff.2 rfl
      exact ⟨V, .list hV hvs hw, hs⟩

lemma ofDocument_of_object (h : HoldsObject ms s) :
    ofDocument s = .ok v ↔
      ∀ k : Key, k.members ms = [(k.name.toList, Decimal.digits (k.value v))] := by
  rw [ofDocument_eq_ok]
  constructor
  · rintro (⟨ms', h', hmembers⟩ | h')
    · rwa [h.unique h']
    · exact absurd h' h.not_list
  · exact fun hmembers => .inl ⟨ms, h, hmembers⟩

lemma ofDocument_of_list {vs : List (List Char)} (h : HoldsList vs s) :
    ofDocument s = .ok v ↔ vs = Key.all.map fun k => Decimal.digits (k.value v) := by
  rw [ofDocument_eq_ok]
  constructor
  · rintro (⟨ms', h', -⟩ | h')
    · exact absurd h h'.not_list
    · exact h.unique h'
  · rintro rfl
    exact .inr h

lemma toOption_congr {ε α : Type} {x y : Except ε α} (h : ∀ a, x = .ok a ↔ y = .ok a) :
    x.toOption = y.toOption := by
  cases x with
  | ok a => rw [(h a).1 rfl]
  | error e =>
    cases y with
    | ok a => cases (h a).2 rfl
    | error e' => rfl

lemma holdsObject_document (v : Settings) :
    HoldsObject (Key.all.map fun k => (k.name.toList, Decimal.digits (k.value v))) v.document := by
  have hobject : HoldsObject _
      (Json.object (Key.all.map fun k => (k.name, Decimal.digits (k.value v)))) :=
    holdsObject_object (List.forall_mem_map.2 fun k _ => k.isPlain_of_mem_name)
      (List.forall_mem_map.2 fun k _ => isValue_digits _)
  rwa [List.map_map] at hobject

lemma ofDocument_document (v : Settings) : ofDocument v.document = .ok v := by
  rw [ofDocument_of_object (holdsObject_document v)]
  intro k
  cases k <;> rfl

def isOwn (m : List Char × List Char) : Bool := Key.all.any fun k => m.1 = k.name.toList

lemma members_filter_isOwn (k : Key) (ms : List (List Char × List Char)) :
    k.members (ms.filter isOwn) = k.members ms := by
  rw [Key.members, List.filter_filter]
  refine List.filter_congr fun m _ => ?_
  by_cases hm : m.1 = k.name.toList
  · simp only [hm, decide_true, Bool.true_and]
    exact List.any_eq_true.2 ⟨k, k.mem_all, decide_eq_true hm⟩
  · simp [hm]

lemma members_perm {ms' : List (List Char × List Char)}
    (h : (ms.filter isOwn).Perm (ms'.filter isOwn)) (hm : k.members ms = [m]) :
    k.members ms' = [m] := by
  have hperm : (k.members (ms.filter isOwn)).Perm (k.members (ms'.filter isOwn)) := h.filter _
  rw [members_filter_isOwn, members_filter_isOwn, hm] at hperm
  exact List.perm_singleton.1 hperm.symm

theorem document_grammar :
    (∀ s v, ofDocument s = .ok v ↔
      (∃ ms, HoldsObject ms s ∧
        ∀ k : Key, k.members ms = [(k.name.toList, Decimal.digits (k.value v))]) ∨
      HoldsList (Key.all.map fun k => Decimal.digits (k.value v)) s) ∧
    (∀ ms ms' s s', HoldsObject ms s → HoldsObject ms' s' →
      (ms.filter isOwn).Perm (ms'.filter isOwn) →
        (ofDocument s).toOption = (ofDocument s').toOption) ∧
    (∀ vs s s', HoldsList vs s → HoldsList vs s' →
      (ofDocument s).toOption = (ofDocument s').toOption) := by
  refine ⟨fun s v => ofDocument_eq_ok, fun ms ms' s s' h h' hperm => ?_, fun vs s s' h h' => ?_⟩
  · apply toOption_congr
    intro v
    rw [ofDocument_of_object h, ofDocument_of_object h']
    exact ⟨fun hms k => members_perm hperm (hms k), fun hms k => members_perm hperm.symm (hms k)⟩
  · apply toOption_congr
    intro v
    rw [ofDocument_of_list h, ofDocument_of_list h']

theorem document_grammar_rearranged :
    (ofDocument initial.document).toOption =
      (ofDocument (Json.object
        [ ("SizeOfQueue", Decimal.digits 15), ("Comment", "null".toList)
        , ("RMax", Decimal.digits 15), ("AmountOfOperators", Decimal.digits 2)
        , ("RMin", Decimal.digits 10) ])).toOption := by
  have hnull : IsValue "null".toList := .word (by decide)
  refine document_grammar.2.1 _ _ _ _ (holdsObject_document initial)
    (holdsObject_object (by decide) ?_) (by decide)
  simp only [List.forall_mem_cons, isValue_digits, hnull, true_and]
  exact nofun

end Switchboard.Settings
