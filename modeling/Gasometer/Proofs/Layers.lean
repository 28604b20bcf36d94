import Gasometer.Machine.Lifecycle
import Gasometer.Proofs.Accounts

/-!
# Sound worlds

A world is sound if what is seen through its layers is sound, from the top and from every layer
that may become the top again. Operations write to the uppermost layer only; opening, committing,
reverting and closing layers keep a world sound.
-/
namespace Gasometer
namespace World

variable {k : Scale} {w w' : World} {a b : Address}

def through (ls : List Layer) : View := fun a => see a ls

theorem get?_write_eq (w : World) (a : Address) (entry : Option Account) :
    (w.write a entry).get? = View.put w.get? a entry := by
  funext b
  rw [get?_write, View.put]

theorem account_write_of_ne (h : a ≠ b) (entry : Option Account) :
    (w.write a entry).account b = w.account b := by
  rw [World.account, get?_write, if_neg h, World.account]

@[simp] theorem below_delete (w : World) (a : Address) : (w.delete a).below = w.below := rfl

/-- The layers that are left when the uppermost one is taken away. -/
theorem layers_close (h : w.below.length ≠ 0) : w.close.layers = w.below := by
  obtain ⟨t, below⟩ := w
  cases below with
  | nil => exact absurd rfl h
  | cons l ls => rfl

theorem below_foldl_delete (l : List Address) (w : World) :
    (l.foldl World.delete w).below = w.below := by
  induction l generalizing w with
  | nil => rfl
  | cons a r ih => rw [List.foldl_cons, ih, below_delete]

/-- A world with no account out of scale, now or after some of its upper layers are taken away. -/
structure Sound (k : Scale) (w : World) : Prop where
  height : k.base ≤ w.layers.length
  views : ∀ ls, ls <:+ w.layers → k.base ≤ ls.length → (through ls).Sound k

theorem Sound.get? (h : w.Sound k) : View.Sound k w.get? :=
  h.views w.layers (List.suffix_refl _) h.height

theorem Sound.account (h : w.Sound k) (a : Address) : (w.account a).Sound k := h.get?.getD a

theorem Sound.holds_balance (h : w.Sound k) (a : Address) :
    k.numbers.Holds (w.account a).balance := h.get?.holds_balance a

theorem Sound.raised (h : w.Sound k) : w.Sound k.raised :=
  ⟨h.height, fun ls hls hb => (h.views ls hls hb).raised⟩

/-- A change of the uppermost layer. -/
theorem Sound.of_below (h : w.Sound k) (hb : w'.below = w.below)
    (hv : View.Sound k w'.get?) : w'.Sound k := by
  refine ⟨?_, fun ls hls hbase => ?_⟩
  · simpa [layers, hb] using h.height
  · rcases List.suffix_cons_iff.1 hls with rfl | hls
    · exact hv
    · exact h.views ls (hb ▸ hls |>.trans (List.suffix_cons _ _)) hbase

/-- Changing an account without making it richer. -/
theorem Sound.modify (h : w.Sound k) (a : Address) {f : Account → Account}
    (hs : (f (w.account a)).Sound k) (hb : (f (w.account a)).balance ≤ (w.account a).balance) :
    (w.modify a f).Sound k := by
  refine h.of_below rfl ?_
  rw [World.modify, get?_write_eq]
  exact h.get?.put a (fun account ha => by cases ha; exact hs) hb

theorem Sound.touch (h : w.Sound k) (a : Address) : (w.touch a).Sound k :=
  h.modify a (h.account a) le_rfl

theorem Sound.delete (h : w.Sound k) (a : Address) : (w.delete a).Sound k := by
  refine h.of_below rfl ?_
  rw [World.delete, get?_write_eq]
  exact h.get?.put a (fun account ha => by cases ha) (h.get?.balance_nonneg a)

theorem Sound.foldl_delete (h : w.Sound k) (l : List Address) :
    (l.foldl World.delete w).Sound k := by
  induction l generalizing w with
  | nil => exact h
  | cons a r ih => exact ih (h.delete a)

/-- Moving value between two accounts. -/
theorem Sound.move (h : w.Sound k) (hab : a ≠ b) {value : Int} (h₀ : 0 ≤ value)
    (h₁ : value ≤ (w.account a).balance) :
    ((w.write a (some { w.account a with balance := (w.account a).balance - value })).modify b
      fun account => { account with balance := account.balance + value }).Sound k := by
  have hb := (h.account b).balance
  refine h.of_below rfl ?_
  rw [World.modify, get?_write_eq, get?_write_eq, account_write_of_ne hab]
  refine h.get?.put_two hab ((h.account a).of_balance (by omega))
    ((h.account b).of_balance (by omega)) ?_
  simp only [View.balance, World.account] at *
  omega

/-- The end of a contract: its balance goes to another account, or is lost if it is its own heir. -/
theorem Sound.bequeath (h : w.Sound k) (heir a : Address) :
    ((w.modify heir fun b => { b with balance := b.balance + (w.account a).balance }).modify a
      fun b => { b with balance := 0 }).Sound k := by
  have hheir := (h.account heir).balance
  have ha := (h.account a).balance
  refine h.of_below rfl ?_
  rw [World.modify, get?_write_eq, World.modify, get?_write_eq]
  by_cases hab : heir = a
  · subst hab
    rw [View.put_put, World.account, get?_write, if_pos rfl]
    refine h.get?.put heir (fun account hacc => ?_) ha
    cases hacc
    exact (h.account heir).of_balance le_rfl
  · rw [account_write_of_ne hab]
    refine h.get?.put_two hab ((h.account heir).of_balance (by omega))
      ((h.account a).of_balance le_rfl) ?_
    simp only [View.balance, World.account]
    omega

/-! Layers come and go. -/

theorem get?_revert (w : World) : w.revert.get? = through w.below := by
  funext a
  simp [World.get?, revert, layers, see, through]

/-- What is seen through a layer that another was moved into. -/
theorem through_merge (l t : Layer) (ls : List Layer) :
    through (l.merge t :: ls) = through (t :: l :: ls) := by
  funext a
  simp only [through, see, Table.get?_merge]
  cases t.get? a <;> cases l.get? a <;> rfl

theorem through_empty (ls : List Layer) : through (Table.empty :: ls) = through ls := by
  funext a
  simp [through, see]

theorem Sound.open_ (h : w.Sound k) : w.open_.Sound k := by
  refine ⟨h.height.trans (by simp [World.open_, layers]), fun ls hls hbase => ?_⟩
  rcases List.suffix_cons_iff.1 hls with rfl | hls
  · exact through_empty w.layers ▸ h.get?
  · exact h.views ls hls hbase

theorem Sound.revert (h : w.Sound k) (hb : k.base ≤ w.below.length) : w.revert.Sound k := by
  refine h.of_below rfl ?_
  rw [get?_revert]
  exact h.views w.below (List.suffix_cons _ _) hb

theorem Sound.commit (h : w.Sound k) : w.commit.Sound k := by
  obtain ⟨t, below⟩ := w
  cases below with
  | nil => exact h
  | cons l ls =>
    -- The two uppermost views are the one that was seen from the top.
    have hmerged : View.Sound k (through (l.merge t :: ls)) := through_merge l t ls ▸ h.get?
    refine ⟨h.height, fun rest hrest hbase => ?_⟩
    rcases List.suffix_cons_iff.1 hrest with rfl | hrest
    · exact through_empty _ ▸ hmerged
    · rcases List.suffix_cons_iff.1 hrest with rfl | hrest
      · exact hmerged
      · have hbelow : rest <:+ t :: l :: ls :=
          hrest.trans ((List.suffix_cons l ls).trans (List.suffix_cons t _))
        exact h.views rest hbelow hbase

theorem Sound.close (h : w.Sound k) (hb : k.base ≤ w.below.length) : w.close.Sound k := by
  obtain ⟨t, below⟩ := w
  cases below with
  | nil => exact h
  | cons l ls => exact ⟨hb, fun rest hrest => h.views rest (hrest.trans (List.suffix_cons _ _))⟩

end World
end Gasometer
