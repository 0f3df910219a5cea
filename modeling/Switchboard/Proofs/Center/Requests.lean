import Switchboard.Proofs.Center.Marks

/-! Requests to reconfigure that are served side by side. All of them ask for the same mark in the
end, so that one of them may be told of the success of another. -/

namespace Switchboard

inductive Petition
  | asked (i : Nat)
  | renewed (i : Nat)
  | prepared (i : Nat) (spare : Option Nat)
  | applied (i : Nat)
  | refused
  | told (i : Nat) (answer : Bool) (taken : Option Nat)
  | crashed (i : Nat) (crash : Crash)

inductive Notice
  | renewed (i : Nat) (petitioner : Option Nat)
  | applied (n : Nat)
  /-- The request `n` was answered, and the mark of the provider `taken` is down since. -/
  | answered (n : Nat) (answer : Bool) (taken : Option Nat)

namespace Petition

def answer? : Petition → Option Bool
  | refused => some false
  | told _ answer _ => some answer
  | _ => none

def story (n : Nat) : Petition → List Notice
  | asked _ => []
  | renewed i | prepared i _ | crashed i _ => [.renewed i (some n)]
  | applied i => [.applied n, .renewed i (some n)]
  | refused => [.answered n false none]
  | told i answer taken => [.answered n answer taken, .applied n, .renewed i (some n)]

lemma no_answer_earlier (n : Nat) (p : Petition) :
    (p.story n).Pairwise fun _ notice => ∀ answer taken, notice ≠ .answered n answer taken := by
  cases p <;> simp [story]

end Petition

namespace Notice

def author? : Notice → Option Nat
  | renewed _ petitioner => petitioner
  | applied n => some n
  | answered n _ _ => some n

end Notice

def unclaimed (i : Nat) : List Notice → Bool
  | [] => false
  | .renewed j _ :: past => j == i || unclaimed i past
  | .applied _ :: past => unclaimed i past
  | .answered _ _ taken :: past => taken != some i && unclaimed i past

structure Explained (n : Nat) (answer : Bool) (taken : Option Nat) (past : List Notice) : Prop where
  answer_iff : answer = true ↔ ∃ i, .renewed i (some n) ∈ past ∧ .applied n ∈ past ∧
    unclaimed i past = true
  done : ∀ i ∈ taken, .renewed i (some n) ∈ past ∧ .applied n ∈ past

def AllExplained (notices : List Notice) : Prop :=
  ∀ n answer taken past, (.answered n answer taken :: past) <:+ notices →
    Explained n answer taken past

def MarksFollow (c : Center) (notices : List Notice) : Prop :=
  ∀ i petitioner, .renewed i petitioner ∈ notices →
    ∃ m, c.mark? i = some m ∧ (m.up = true ↔ unclaimed i notices = true)

section Notices

variable {notices news : List Notice} {notice : Notice} {c c' : Center} {i n : Nat}

lemma AllExplained.cons (h : AllExplained notices)
    (hn : ∀ n answer taken, notice = .answered n answer taken →
      Explained n answer taken notices) : AllExplained (notice :: notices) := by
  intro n answer taken past hp
  rcases List.suffix_cons_iff.1 hp with he | hp
  · obtain ⟨hnotice, rfl⟩ := List.cons.inj he
    exact hn n answer taken hnotice.symm
  · exact h n answer taken past hp

lemma AllExplained.more (h : AllExplained notices)
    (hn : ∀ n answer taken, notice ≠ .answered n answer taken) :
    AllExplained (notice :: notices) :=
  h.cons fun n answer taken he => absurd he (hn n answer taken)

lemma AllExplained.append (h : AllExplained notices)
    (hnews : ∀ e ∈ news, ∃ i, e = .renewed i none) : AllExplained (news ++ notices) := by
  induction news with
  | nil => exact h
  | cons e news ih =>
    obtain ⟨i, rfl⟩ := hnews e (List.mem_cons_self ..)
    have ih := ih fun e he => hnews e (List.mem_cons_of_mem _ he)
    exact ih.more fun _ _ _ => Notice.noConfusion

lemma AllExplained.exists_told (h : AllExplained notices) {petitioner : Option Nat}
    (hr : .renewed i petitioner ∈ notices) (hu : unclaimed i notices = false) :
    ∃ n, [.answered n true (some i), .renewed i petitioner].Sublist notices := by
  induction notices with
  | nil => cases hr
  | cons notice past ih =>
    have hpast : AllExplained past :=
      fun n answer taken _ hp => h n answer taken _ (hp.trans (List.suffix_cons ..))
    have earlier (hne : .renewed i petitioner ≠ notice) (hu : unclaimed i past = false) :
        ∃ n, [.answered n true (some i), .renewed i petitioner].Sublist (notice :: past) := by
      obtain ⟨n, hn⟩ := ih hpast (List.mem_of_ne_of_mem hne hr) hu
      exact ⟨n, hn.cons _⟩
    cases notice with
    | renewed j other =>
      obtain ⟨hj, hu⟩ := Bool.or_eq_false_iff.1 hu
      refine earlier ?_ hu
      rintro he
      obtain ⟨rfl, -⟩ := Notice.renewed.inj he
      exact absurd (beq_self_eq_true i) (ne_true_of_eq_false hj)
    | applied n => exact earlier Notice.noConfusion hu
    | answered n answer taken =>
      -- Whoever finds the mark up is told of a success, and after that it is down.
      have he := h n answer taken past (List.suffix_refl _)
      by_cases ht : taken = some i ∧ unclaimed i past = true
      · obtain ⟨rfl, hunclaimed⟩ := ht
        obtain ⟨hrenewed, happlied⟩ := he.done i rfl
        obtain rfl := he.answer_iff.2 ⟨i, hrenewed, happlied, hunclaimed⟩
        refine ⟨n, List.Sublist.cons_cons _ (List.singleton_sublist.2 ?_)⟩
        exact List.mem_of_ne_of_mem Notice.noConfusion hr
      · refine earlier Notice.noConfusion ?_
        rw [unclaimed, Bool.and_eq_false_iff] at hu
        rcases hu with hu | hu
        · have htaken : taken = some i := by simpa using hu
          exact Bool.eq_false_iff.2 fun hunclaimed => ht ⟨htaken, hunclaimed⟩
        · exact hu

namespace MarksFollow

lemma keep (h : MarksFollow c notices) (hk : ∀ i m, c.mark? i = some m → c'.mark? i = some m) :
    MarksFollow c' notices := by
  intro i petitioner hm
  obtain ⟨m, hmark, hup⟩ := h i petitioner hm
  exact ⟨m, hk i m hmark, hup⟩

lemma of_eq (h : MarksFollow c notices) (he : c'.mark? = c.mark?) : MarksFollow c' notices := by
  apply h.keep
  intro i m hm
  rw [he, hm]

lemma cons (h : MarksFollow c notices) (hr : ∀ i petitioner, notice ≠ .renewed i petitioner)
    (hu : ∀ i, unclaimed i (notice :: notices) = unclaimed i notices) :
    MarksFollow c (notice :: notices) := by
  intro i petitioner hm
  rcases List.mem_cons.1 hm with he | hm
  · exact absurd he.symm (hr i petitioner)
  · rw [hu]
    exact h i petitioner hm

lemma renew (h : MarksFollow c notices) (hr : c.renews i = true) (petitioner : Option Nat) :
    MarksFollow (c.reload i).2 (.renewed i petitioner :: notices) := by
  obtain ⟨m, -, hmark⟩ := Center.mark?_renew hr
  intro j other hm
  by_cases hj : j = i
  · subst j
    exact ⟨_, (hmark i).trans (if_pos rfl), by simp [unclaimed]⟩
  · have hm' : .renewed j other ∈ notices := by
      rcases List.mem_cons.1 hm with he | hm
      · cases he
        exact absurd rfl hj
      · exact hm
    obtain ⟨m', hm', hup⟩ := h j other hm'
    refine ⟨m', (hmark j).trans ((if_neg hj).trans hm'), ?_⟩
    simpa [unclaimed, Ne.symm hj] using hup

lemma take (h : MarksFollow c notices) (hr : .renewed i (some n) ∈ notices) :
    ((c.takeUpdated i).1 = true ↔ unclaimed i notices = true) ∧
      MarksFollow (c.takeUpdated i).2
        (.answered n (c.takeUpdated i).1 (c.takes i) :: notices) := by
  obtain ⟨m, hm, hup⟩ := h i (some n) hr
  obtain ⟨ha, ht, hmark⟩ := Center.mark?_takeUpdated hm
  refine ⟨by rw [ha, hup], ?_⟩
  intro j other hj
  have hj' : .renewed j other ∈ notices := by
    rcases List.mem_cons.1 hj with he | hj
    · cases he
    · exact hj
  by_cases hji : j = i
  · subst j
    refine ⟨_, (hmark i).trans (if_pos rfl), ?_⟩
    rw [unclaimed, ht]
    cases m.falls with
    | true => simp
    | false => simpa using hup
  · obtain ⟨m', hm', hup'⟩ := h j other hj'
    refine ⟨m', (hmark j).trans ((if_neg hji).trans hm'), ?_⟩
    rw [unclaimed, ht]
    cases m.falls <;> simpa [Ne.symm hji] using hup'

end MarksFollow

end Notices

structure Registry where
  bureau : Bureau
  petitions : List Petition
  /-- The latest first. -/
  notices : List Notice

namespace Registry

inductive Deed
  | ask
  | step (n : Nat) (now : Timestamp)
  | poll (now : Timestamp)
  | other (deed : Bureau.Deed)

def center (r : Registry) : Center := r.bureau.center

def put (r : Registry) (n : Nat) (p : Petition) (c : Center) (news : List Notice) : Registry where
  bureau := { r.bureau with center := c }
  petitions := r.petitions.set n p
  notices := news ++ r.notices

def advance (c : Center) (n : Nat) (now : Timestamp) : Petition → Petition × Center × List Notice
  | .asked i =>
    let c' := (c.reload i).2
    if c.renews i then (.renewed i, c', [.renewed i (some n)])
    else (.refused, c', [.answered n false none])
  | .renewed i =>
    match c.prepare with
    | (.error crash, c) => (.crashed i crash, c, [])
    | (.ok spare, c) => (.prepared i spare, c, [])
  | .prepared i spare =>
    match c.apply spare now with
    | (some crash, c) => (.crashed i crash, c, [])
    | (none, c) => (.applied i, c, [.applied n])
  | .applied i =>
    let reply := c.takeUpdated i
    (.told i reply.1 (c.takes i), reply.2, [.answered n reply.1 (c.takes i)])
  | p => (p, c, [])

def step (r : Registry) (n : Nat) (now : Timestamp) : Registry :=
  match r.petitions[n]? with
  | none => r
  | some p =>
    let (p, c, news) := advance r.center n now p
    r.put n p c news

def renewal (c : Center) (i : Nat) : List Notice :=
  if c.renews i then [.renewed i none] else []

def news (c : Center) : Bureau.Deed → List Notice
  | .reload i => renewal c i
  | _ => []

def act (r : Registry) : Deed → Registry
  | .ask =>
    match r.center.provider? with
    | none => r
    | some _ => { r with petitions := r.petitions ++ [.asked r.center.dispatcher.provider] }
  | .step n now => r.step n now
  | .poll now =>
    { r with
      bureau := { r.bureau with center := r.center.poll now }
      notices := (if r.center.polls then renewal r.center 0 else []) ++ r.notices }
  | .other deed =>
    { r with bureau := r.bureau.act deed, notices := news r.center deed ++ r.notices }

def run (r : Registry) (deeds : List Deed) : Registry := deeds.foldl act r

def of (c : Center) : Registry := ⟨.of c, [], []⟩

def story (r : Registry) (n : Nat) : List Notice :=
  match r.petitions[n]? with
  | none => []
  | some p => p.story n

structure Orderly (r : Registry) : Prop where
  stories : ∀ n, r.notices.filter (·.author? = some n) = r.story n
  marks : MarksFollow r.center r.notices
  explained : AllExplained r.notices

variable {r : Registry} {n i : Nat} {p p' : Petition} {c : Center} {news : List Notice}

lemma story_eq (hn : r.petitions[n]? = some p) : r.story n = p.story n := by
  rw [story, hn]

lemma petition_put (hn : r.petitions[n]? = some p) :
    (r.put n p' c news).petitions[n]? = some p' :=
  List.getElem?_set_self (List.getElem?_eq_some_iff.1 hn).1

lemma mem_story (h : r.Orderly) (hn : r.petitions[n]? = some p) {notice : Notice}
    (hof : notice.author? = some n) : notice ∈ r.notices ↔ notice ∈ p.story n := by
  rw [← story_eq hn, ← h.stories n, List.mem_filter, decide_eq_true_iff, and_iff_left hof]

lemma orderly_put (h : r.Orderly) (hn : r.petitions[n]? = some p)
    (hstory : p'.story n = news ++ p.story n) (hof : ∀ e ∈ news, e.author? = some n)
    (hmarks : MarksFollow c (news ++ r.notices)) (hexplained : AllExplained (news ++ r.notices)) :
    (r.put n p' c news).Orderly := by
  refine ⟨?_, hmarks, hexplained⟩
  intro m
  show (news ++ r.notices).filter _ = _
  rw [List.filter_append, h.stories m]
  by_cases hm : m = n
  · subst m
    have hall : news.filter (·.author? = some n) = news :=
      List.filter_eq_self.2 fun e he => decide_eq_true (hof e he)
    rw [hall, story_eq hn, story_eq (petition_put hn), hstory]
  · have hnone : news.filter (·.author? = some m) = [] := by
      refine List.filter_eq_nil_iff.2 fun e he hm' => hm ?_
      exact Option.some.inj ((of_decide_eq_true hm').symm.trans (hof e he))
    have hother : (r.put n p' c news).petitions[m]? = r.petitions[m]? :=
      List.getElem?_set_ne (Ne.symm hm)
    rw [hnone, story, story, hother]
    rfl

lemma step_eq (hn : r.petitions[n]? = some p) (now : Timestamp) :
    r.step n now = r.put n (advance r.center n now p).1 (advance r.center n now p).2.1
      (advance r.center n now p).2.2 := by
  rw [step, hn]

lemma orderly_quiet (h : r.Orderly) (hn : r.petitions[n]? = some p)
    (hstory : p'.story n = p.story n) (hc : c.mark? = r.center.mark?) :
    (r.put n p' c []).Orderly :=
  orderly_put h hn hstory (fun _ he => absurd he List.not_mem_nil) (h.marks.of_eq hc) h.explained

lemma orderly_asked (h : r.Orderly) (hn : r.petitions[n]? = some (.asked i)) (now : Timestamp) :
    (r.step n now).Orderly := by
  rw [step_eq hn, advance]
  cases hr : r.center.renews i with
  | true =>
    exact orderly_put h hn rfl (List.forall_mem_singleton.2 rfl) (h.marks.renew hr (some n))
      (h.explained.more fun _ _ _ => Notice.noConfusion)
  | false =>
    have hmarks : MarksFollow (r.center.reload i).2 (.answered n false none :: r.notices) :=
      (h.marks.of_eq (Center.mark?_reload hr)).cons (fun _ _ => Notice.noConfusion) fun _ => rfl
    refine orderly_put h hn rfl (List.forall_mem_singleton.2 rfl) hmarks (h.explained.cons ?_)
    intro m answer taken he
    obtain ⟨rfl, rfl, rfl⟩ := Notice.answered.inj he
    constructor
    · constructor
      · intro hf
        cases hf
      · -- Nothing was noticed of this request before it was refused.
        rintro ⟨j, hj, -⟩
        cases (mem_story h hn rfl).1 hj
    · intro j hj
      cases hj

lemma orderly_prepared {spare : Option Nat} (h : r.Orderly)
    (hn : r.petitions[n]? = some (.prepared i spare)) (now : Timestamp) :
    (r.step n now).Orderly := by
  have hc := Center.mark?_apply r.center spare now
  rw [step_eq hn, advance]
  generalize r.center.apply spare now = reply at hc ⊢
  obtain ⟨crash, c⟩ := reply
  cases crash with
  | some crash => exact orderly_quiet h hn rfl hc
  | none =>
    have hmarks : MarksFollow c (.applied n :: r.notices) :=
      (h.marks.of_eq hc).cons (fun _ _ => Notice.noConfusion) fun _ => rfl
    exact orderly_put h hn rfl (List.forall_mem_singleton.2 rfl) hmarks
      (h.explained.more fun _ _ _ => Notice.noConfusion)

lemma orderly_applied (h : r.Orderly) (hn : r.petitions[n]? = some (.applied i))
    (now : Timestamp) : (r.step n now).Orderly := by
  have hrenewed : .renewed i (some n) ∈ r.notices :=
    (mem_story h hn rfl).2 (by simp [Petition.story])
  have happlied : .applied n ∈ r.notices := (mem_story h hn rfl).2 (by simp [Petition.story])
  obtain ⟨hanswer, hmarks⟩ := h.marks.take hrenewed
  rw [step_eq hn]
  refine orderly_put h hn rfl (List.forall_mem_singleton.2 rfl) hmarks (h.explained.cons ?_)
  intro m answer taken he
  obtain ⟨rfl, rfl, rfl⟩ := Notice.answered.inj he
  constructor
  · rw [hanswer]
    constructor
    · intro hu
      exact ⟨i, hrenewed, happlied, hu⟩
    · rintro ⟨j, hj, -, hu⟩
      have hj := (mem_story h hn rfl).1 hj
      obtain rfl : j = i := by simpa [Petition.story] using hj
      exact hu
  · intro j hj
    obtain ⟨m, -, rfl⟩ := Option.map_eq_some_iff.1 hj
    exact ⟨hrenewed, happlied⟩

lemma orderly_step (h : r.Orderly) (n : Nat) (now : Timestamp) : (r.step n now).Orderly := by
  cases hn : r.petitions[n]? with
  | none =>
    rw [step, hn]
    exact h
  | some p =>
    cases p with
    | refused | told | crashed =>
      rw [step_eq hn]
      exact orderly_quiet h hn rfl rfl
    | asked i => exact orderly_asked h hn now
    | renewed i =>
      have hc := Center.mark?_prepare r.center
      rw [step_eq hn, advance]
      generalize r.center.prepare = reply at hc ⊢
      obtain ⟨spare, c⟩ := reply
      cases spare <;> exact orderly_quiet h hn rfl hc
    | prepared i spare => exact orderly_prepared h hn now
    | applied i => exact orderly_applied h hn now

lemma renewal_mem (c : Center) (i : Nat) : ∀ e ∈ renewal c i, ∃ i, e = .renewed i none := by
  intro e he
  rw [renewal] at he
  split at he
  · exact ⟨i, List.mem_singleton.1 he⟩
  · cases he

lemma marks_renewal {notices : List Notice} (h : MarksFollow c notices) (i : Nat) :
    MarksFollow (c.reload i).2 (renewal c i ++ notices) := by
  rw [renewal]
  cases hr : c.renews i with
  | true => exact h.renew hr none
  | false => exact h.of_eq (Center.mark?_reload hr)

lemma orderly_beside (h : r.Orderly) {b : Bureau} (hnews : ∀ e ∈ news, ∃ i, e = .renewed i none)
    (hmarks : MarksFollow b.center (news ++ r.notices)) :
    ({ r with bureau := b, notices := news ++ r.notices } : Registry).Orderly := by
  refine ⟨?_, hmarks, h.explained.append hnews⟩
  intro n
  have hnone : news.filter (·.author? = some n) = [] := by
    refine List.filter_eq_nil_iff.2 fun e he hn => ?_
    obtain ⟨i, rfl⟩ := hnews e he
    cases of_decide_eq_true hn
  show (news ++ r.notices).filter _ = _
  rw [List.filter_append, hnone, List.nil_append, h.stories n]
  rfl

theorem orderly_act (h : r.Orderly) (deed : Deed) : (r.act deed).Orderly := by
  cases deed with
  | ask =>
    rw [act]
    split
    · exact h
    · refine ⟨?_, h.marks, h.explained⟩
      intro n
      rw [h.stories n, story, story]
      dsimp only
      rcases Nat.lt_trichotomy n r.petitions.length with hn | rfl | hn
      · rw [List.getElem?_append_left hn]
      · rw [List.getElem?_concat_length, List.getElem?_eq_none (Nat.le_refl _)]
        rfl
      · rw [List.getElem?_eq_none (Nat.le_of_lt hn), List.getElem?_eq_none]
        rwa [List.length_append]
  | step n now => exact orderly_step h n now
  | poll now =>
    have hp := r.center.mark?_poll now
    rw [act]
    cases hpolls : r.center.polls with
    | false =>
      rw [hpolls, if_neg Bool.false_ne_true] at hp
      rw [if_neg Bool.false_ne_true]
      exact orderly_beside h (fun _ he => absurd he List.not_mem_nil) (h.marks.of_eq hp)
    | true =>
      rw [hpolls, if_pos rfl] at hp
      rw [if_pos rfl]
      exact orderly_beside h (renewal_mem _ _) ((marks_renewal h.marks 0).of_eq hp)
  | other deed =>
    by_cases hd : ∃ i, deed = .reload i
    · obtain ⟨i, rfl⟩ := hd
      exact orderly_beside h (renewal_mem _ _) (marks_renewal h.marks i)
    · have hnews : news r.center deed = [] := by
        cases deed with
        | reload i => exact absurd ⟨i, rfl⟩ hd
        | _ => rfl
      rw [act, hnews]
      refine orderly_beside h (fun _ he => absurd he List.not_mem_nil) (h.marks.keep ?_)
      intro i m hm
      exact Bureau.mark?_act (fun j he => hd ⟨j, he⟩) hm

lemma orderly_run (h : r.Orderly) (deeds : List Deed) : (r.run deeds).Orderly := by
  induction deeds generalizing r with
  | nil => exact h
  | cons deed deeds ih => exact ih (orderly_act h deed)

lemma orderly_of (c : Center) : (of c).Orderly := by
  refine ⟨fun _ => rfl, ?_, ?_⟩
  · intro i petitioner hm
    cases hm
  · intro n answer taken past hp
    cases List.suffix_nil.1 hp

lemma answered_iff (h : r.Orderly) (n : Nat) (answer : Bool) :
    r.petitions[n]?.bind Petition.answer? = some answer ↔
      ∃ taken, .answered n answer taken ∈ r.notices := by
  cases hn : r.petitions[n]? with
  | none =>
    have hs := h.stories n
    rw [story, hn] at hs
    constructor
    · intro he
      cases he
    · rintro ⟨taken, hm⟩
      exact absurd (decide_eq_true rfl) (List.filter_eq_nil_iff.1 hs _ hm)
  | some p =>
    have hm (taken : Option Nat) : .answered n answer taken ∈ r.notices ↔
        .answered n answer taken ∈ p.story n := mem_story h hn rfl
    simp only [hm, Option.bind_some]
    cases p <;> simp [Petition.story, Petition.answer?, eq_comm]

lemma answered_once (h : r.Orderly) {answer : Bool} {taken : Option Nat} {past : List Notice}
    (hp : (.answered n answer taken :: past) <:+ r.notices) (answer' : Bool)
    (taken' : Option Nat) : .answered n answer' taken' ∉ past := by
  intro hm
  obtain ⟨later, hl⟩ := hp
  have hpair : (r.story n).Pairwise fun _ e => ∀ a t, e ≠ .answered n a t := by
    rw [story]
    split
    · exact List.Pairwise.nil
    · exact Petition.no_answer_earlier n _
  have hcons : (Notice.answered n answer taken :: past).filter (·.author? = some n) =
      .answered n answer taken :: past.filter (·.author? = some n) :=
    List.filter_cons_of_pos (decide_eq_true rfl)
  rw [← h.stories n, ← hl, List.filter_append, hcons] at hpair
  obtain ⟨-, hpair, -⟩ := List.pairwise_append.1 hpair
  exact (List.pairwise_cons.1 hpair).1 _ (List.mem_filter.2 ⟨hm, decide_eq_true rfl⟩) _ _ rfl

def Stands (r : Registry) (n : Nat) (s : Petition × Center) : Prop :=
  r.petitions[n]? = some s.1 ∧ r.center = s.2

def advanced (n : Nat) (now : Timestamp) (s : Petition × Center) : Petition × Center :=
  ((advance s.2 n now s.1).1, (advance s.2 n now s.1).2.1)

lemma Stands.step {s : Petition × Center} (h : r.Stands n s) (now : Timestamp) :
    (r.act (.step n now)).Stands n (advanced n now s) := by
  obtain ⟨hn, hc⟩ := h
  rw [act, step_eq hn, hc]
  exact ⟨petition_put hn, rfl⟩

lemma stands_ask {p : Provider} (hp : r.center.provider? = some p) :
    (r.act .ask).Stands r.petitions.length (.asked r.center.dispatcher.provider, r.center) := by
  rw [act, hp]
  exact ⟨List.getElem?_concat_length, rfl⟩

lemma advanced_asked {p : Provider} (hp : c.providers[i]? = some p) (n : Nat) (now : Timestamp) :
    advanced n now (.asked i, c) =
      (if (c.reload i).1.isOk then .renewed i else .refused, (c.reload i).2) := by
  have hrenews : c.renews i = (c.reload i).1.isOk := by
    rw [Center.renews, Center.reload, hp]
    rfl
  rw [← hrenews, advanced, advance]
  dsimp only
  split <;> rfl

lemma advanced_renewed (c : Center) (i n : Nat) (now : Timestamp) :
    advanced n now (.renewed i, c) =
      match c.prepare with
      | (.error crash, c) => (.crashed i crash, c)
      | (.ok spare, c) => (.prepared i spare, c) := by
  rw [advanced, advance]
  dsimp only
  split <;> rfl

lemma advanced_prepared (c : Center) (i : Nat) (spare : Option Nat) (n : Nat) (now : Timestamp) :
    advanced n now (.prepared i spare, c) =
      match c.apply spare now with
      | (some crash, c) => (.crashed i crash, c)
      | (none, c) => (.applied i, c) := by
  rw [advanced, advance]
  dsimp only
  split <;> rfl

lemma advanced_eq_reconfigure {p : Provider} (hp : c.provider? = some p) (n : Nat)
    (now : Timestamp) :
    let s := advanced n now (advanced n now (advanced n now (advanced n now
      (.asked c.dispatcher.provider, c))))
    s.1.answer? = (c.reconfigure now).1.toOption ∧ s.2 = (c.reconfigure now).2 := by
  rw [Center.reconfigure, advanced_asked hp]
  dsimp only
  generalize c.dispatcher.provider = i
  generalize c.reload i = reply
  obtain ⟨reply, c⟩ := reply
  cases reply with
  | error e => exact ⟨rfl, rfl⟩
  | ok u =>
    dsimp only
    rw [Center.update, if_pos (by rfl), advanced_renewed]
    generalize c.prepare = reply
    obtain ⟨reply, c⟩ := reply
    cases reply with
    | error crash => exact ⟨rfl, rfl⟩
    | ok spare =>
      dsimp only
      rw [advanced_prepared]
      generalize c.apply spare now = reply
      obtain ⟨crash, c⟩ := reply
      cases crash <;> exact ⟨rfl, rfl⟩

theorem run_alone (r : Registry) {p : Provider} (hp : r.center.provider? = some p)
    (now : Timestamp) :
    let n := r.petitions.length
    let r' := r.run [.ask, .step n now, .step n now, .step n now, .step n now]
    r'.petitions[n]?.bind Petition.answer? = (r.center.reconfigure now).1.toOption ∧
      r'.center = (r.center.reconfigure now).2 := by
  intro n r'
  obtain ⟨hpetition, hcenter⟩ := ((((stands_ask hp).step now).step now).step now).step now
  obtain ⟨hanswer, hsame⟩ := advanced_eq_reconfigure hp n now
  simp only [r', run, List.foldl_cons, List.foldl_nil]
  refine ⟨?_, hcenter.trans hsame⟩
  rw [hpetition, ← hanswer]
  rfl

end Registry

/-- A request is told that it succeeded just if its reload and its update did and nobody has taken
the mark of its provider since it was last reloaded. Where it succeeded and is not told so, another
request was told in its place. -/
theorem requests_share_a_mark (c : Center) (deeds : List Registry.Deed) :
    let r := (Registry.of c).run deeds
    (∀ n answer, r.petitions[n]?.bind Petition.answer? = some answer ↔
      ∃ taken, .answered n answer taken ∈ r.notices) ∧
    ∀ n answer taken past, (.answered n answer taken :: past) <:+ r.notices →
      (answer = true ↔ ∃ i, .renewed i (some n) ∈ past ∧ .applied n ∈ past ∧
        unclaimed i past = true) ∧
      ∀ i, answer = false → .renewed i (some n) ∈ past → .applied n ∈ past →
        ∃ m, m ≠ n ∧ [.answered m true (some i), .renewed i (some n)].Sublist past := by
  intro r
  have h : r.Orderly := Registry.orderly_run (Registry.orderly_of c) deeds
  refine ⟨Registry.answered_iff h, ?_⟩
  intro n answer taken past hp
  have he := (h.explained n answer taken past hp).answer_iff
  refine ⟨he, ?_⟩
  rintro i rfl hrenewed happlied
  have hu : unclaimed i past = false := by
    refine Bool.eq_false_iff.2 fun hu => Bool.false_ne_true ?_
    exact he.2 ⟨i, hrenewed, happlied, hu⟩
  have hpast : AllExplained past := fun m a t _ hs =>
    h.explained m a t _ (hs.trans ((List.suffix_cons ..).trans hp))
  obtain ⟨m, hm⟩ := hpast.exists_told hrenewed hu
  refine ⟨m, ?_, hm⟩
  rintro rfl
  exact Registry.answered_once h hp _ _ (hm.subset (List.mem_cons_self ..))

namespace Registry

def overlapping : List Deed :=
  let noon := Bureau.noon
  [.other (.stage 0 ⟨3, 7, 1, 4⟩), .ask, .step 0 noon, .step 0 noon, .step 0 noon, .ask,
    .step 1 noon, .step 1 noon, .step 1 noon, .step 1 noon, .step 0 noon]

lemma notices_overlapping : ((of Bureau.smallCenter).run overlapping).notices =
    [.answered 0 false (some 0), .answered 1 true (some 0), .applied 1, .renewed 0 (some 1),
      .applied 0, .renewed 0 (some 0)] := rfl

end Registry

theorem requests_share_a_mark_when_overlapping :
    let r := (Registry.of Bureau.smallCenter).run Registry.overlapping
    ∃ past, (.answered 0 false (some 0) :: past) <:+ r.notices ∧
      .renewed 0 (some 0) ∈ past ∧ .applied 0 ∈ past ∧
      ∃ m, m ≠ 0 ∧ [.answered m true (some 0), .renewed 0 (some 0)].Sublist past := by
  intro r
  obtain ⟨-, hanswers⟩ := requests_share_a_mark Bureau.smallCenter Registry.overlapping
  have hp := List.suffix_refl r.notices
  rw [Registry.notices_overlapping] at hp
  obtain ⟨-, htold⟩ := hanswers 0 false (some 0) _ hp
  exact ⟨_, hp, by simp, by simp, htold 0 rfl (by simp) (by simp)⟩

theorem not_told_of_its_success :
    let r := (Registry.of Bureau.smallCenter).run Registry.overlapping
    ¬ ∀ n answer, r.petitions[n]?.bind Petition.answer? = some answer →
      (answer = true ↔ (∃ i, .renewed i (some n) ∈ r.notices) ∧ .applied n ∈ r.notices) := by
  intro r h
  have hrenewed : .renewed 0 (some 0) ∈ r.notices := by simp [r, Registry.notices_overlapping]
  have happlied : .applied 0 ∈ r.notices := by simp [r, Registry.notices_overlapping]
  exact Bool.false_ne_true ((h 0 false rfl).2 ⟨⟨0, hrenewed⟩, happlied⟩)

end Switchboard
