import Mathlib.Data.Multiset.MapFold
import Mathlib.Data.Sym.Sym2
import Mathlib.Logic.Relation
import Sentential.Formula.Shape
import Sentential.Proofs.Valuation

/-! Shapes, the classes of formulas that differ in the order of operands. Two formulas have one shape
if rearranging leads from one to the other, at any depth and in any number of steps. What a shape
keeps of a formula is seen at its root: the operands of a junction as a multiset of shapes, the sides
of a biconditional as an unordered pair. Pairing operands off needs no second thoughts, since
operands that fit one and the same operand have one shape and any of them will do. -/
namespace Sentential

open Relation (ReflTransGen)

/-- What is a permutation of the values of a list is the values of a permutation of it. -/
theorem exists_perm_map_eq {f : α → β} {values : List β} {xs : List α}
    (perm : values.Perm (xs.map f)) :
    ∃ arranged : List α, arranged.Perm xs ∧ arranged.map f = values := by
  induction values generalizing xs with
  | nil =>
    have none := List.map_eq_nil_iff.mp perm.symm.eq_nil
    exact ⟨[],none ▸ .refl _,rfl⟩
  | cons value values ih =>
    have found : value ∈ xs.map f := perm.mem_iff.mp (List.mem_cons_self ..)
    obtain ⟨x,member,rfl⟩ := List.mem_map.mp found
    obtain ⟨before,after,rfl⟩ := List.append_of_mem member
    have moved : (before ++ x :: after).Perm (x :: (before ++ after)) := List.perm_middle
    obtain ⟨arranged,permuted,same⟩ := ih (perm.trans (moved.map f)).cons_inv
    exact ⟨x :: arranged,(permuted.cons x).trans moved.symm,by rw [List.map_cons,same]⟩

namespace Formula

/-- One rearrangement somewhere in a formula: of the operands of a junction or of the sides of a
biconditional. The sides of a conditional stay where they are. -/
inductive Rearranges : Formula → Formula → Prop where
  | permute {operands operands' : List Formula} : operands.Perm operands' →
      Rearranges (.junction kind operands) (.junction kind operands')
  | exchange : Rearranges (.biconditional left right) (.biconditional right left)
  | neg : Rearranges operand operand' → Rearranges (.neg operand) (.neg operand')
  | operand {before after : List Formula} : Rearranges operand operand' →
      Rearranges (.junction kind (before ++ operand :: after))
        (.junction kind (before ++ operand' :: after))
  | antecedent : Rearranges left left' →
      Rearranges (.conditional left right) (.conditional left' right)
  | consequent : Rearranges right right' →
      Rearranges (.conditional left right) (.conditional left right')
  | left : Rearranges left left' →
      Rearranges (.biconditional left right) (.biconditional left' right)
  | right : Rearranges right right' →
      Rearranges (.biconditional left right) (.biconditional left right')

theorem Rearranges.symm {formula formula' : Formula} (step : Rearranges formula formula') :
    Rearranges formula' formula := by
  induction step with
  | permute perm => exact .permute perm.symm
  | exchange => exact .exchange
  | neg _ ih => exact .neg ih
  | operand _ ih => exact .operand ih
  | antecedent _ ih => exact .antecedent ih
  | consequent _ ih => exact .consequent ih
  | left _ ih => exact .left ih
  | right _ ih => exact .right ih

instance : Std.Symm Rearranges := ⟨fun _ _ => Rearranges.symm⟩

def rearranged : Setoid Formula where
  r := ReflTransGen Rearranges
  iseqv := ⟨fun _ => .refl,ReflTransGen.stdSymm.symm _ _,.trans⟩

def Shape : Type := Quotient rearranged

def shape (formula : Formula) : Shape := Quotient.mk rearranged formula

theorem shape_eq_iff_rearranges {left right : Formula} :
    left.shape = right.shape ↔ ReflTransGen Rearranges left right := Quotient.eq

theorem Rearranges.shape_eq {formula formula' : Formula} (step : Rearranges formula formula') :
    formula.shape = formula'.shape :=
  shape_eq_iff_rearranges.mpr (.single step)

/-- What is left of a formula when only its root and the shapes of its operands are known. -/
inductive Outline where
  | var (name : String)
  | neg (operand : Shape)
  | junction (kind : Junction) (operands : Multiset Shape)
  | conditional (left right : Shape)
  | biconditional (sides : Sym2 Shape)

def outline : Formula → Outline
  | .var name => .var name
  | .neg operand => .neg operand.shape
  | .junction kind operands => .junction kind (operands.map shape)
  | .conditional left right => .conditional left.shape right.shape
  | .biconditional left right => .biconditional s(left.shape,right.shape)

theorem Rearranges.outline_eq {formula formula' : Formula} (step : Rearranges formula formula') :
    formula.outline = formula'.outline := by
  cases step with
  | permute perm => simp only [outline,Multiset.coe_eq_coe.mpr (perm.map shape)]
  | exchange => simp only [outline,Sym2.eq_swap]
  | neg step => simp only [outline,step.shape_eq]
  | operand step => simp only [outline,List.map_append,List.map_cons,step.shape_eq]
  | antecedent step => simp only [outline,step.shape_eq]
  | consequent step => simp only [outline,step.shape_eq]
  | left step => simp only [outline,step.shape_eq]
  | right step => simp only [outline,step.shape_eq]

theorem shape_neg {operand operand' : Formula} (same : operand.shape = operand'.shape) :
    (neg operand).shape = (neg operand').shape := by
  rw [shape_eq_iff_rearranges] at same ⊢
  exact same.lift neg fun _ _ => .neg

theorem shape_conditional {left left' right right' : Formula} (ofLeft : left.shape = left'.shape)
    (ofRight : right.shape = right'.shape) :
    (conditional left right).shape = (conditional left' right').shape := by
  rw [shape_eq_iff_rearranges] at ofLeft ofRight ⊢
  exact (ofLeft.lift (conditional · right) fun _ _ => .antecedent).trans
    (ofRight.lift (conditional left') fun _ _ => .consequent)

theorem shape_biconditional {left left' right right' : Formula}
    (ofLeft : left.shape = left'.shape) (ofRight : right.shape = right'.shape) :
    (biconditional left right).shape = (biconditional left' right').shape := by
  rw [shape_eq_iff_rearranges] at ofLeft ofRight ⊢
  exact (ofLeft.lift (biconditional · right) fun _ _ => .left).trans
    (ofRight.lift (biconditional left') fun _ _ => .right)

/-- The operands after the first few may be replaced one by one. -/
theorem shape_junction_append (kind : Junction) (before : List Formula)
    {operands operands' : List Formula} (same : operands.map shape = operands'.map shape) :
    (junction kind (before ++ operands)).shape = (junction kind (before ++ operands')).shape := by
  induction operands generalizing before operands' with
  | nil => rw [List.map_eq_nil_iff.mp same.symm]
  | cons operand operands ih =>
    cases operands' with
    | nil => cases same
    | cons operand' operands' =>
      obtain ⟨first,others⟩ := List.cons_eq_cons.mp same
      have replaced : (junction kind (before ++ operand :: operands)).shape =
          (junction kind (before ++ operand' :: operands)).shape := by
        rw [shape_eq_iff_rearranges] at first ⊢
        exact first.lift (fun operand => junction kind (before ++ operand :: operands))
          fun _ _ => .operand
      rw [replaced]
      simpa using ih (before ++ [operand']) others

theorem shape_junction (kind : Junction) {operands operands' : List Formula}
    (perm : (operands.map shape).Perm (operands'.map shape)) :
    (junction kind operands).shape = (junction kind operands').shape := by
  obtain ⟨arranged,permuted,same⟩ := exists_perm_map_eq perm
  exact (shape_junction_append kind [] same.symm).trans (Rearranges.permute permuted).shape_eq

/-- The shape of a formula is known from its root and the shapes of its operands. -/
theorem shape_eq_iff {left right : Formula} :
    left.shape = right.shape ↔ left.outline = right.outline := by
  constructor
  · intro same
    induction shape_eq_iff_rearranges.mp same with
    | refl => rfl
    | tail steps step ih =>
      exact (ih (shape_eq_iff_rearranges.mpr steps)).trans step.outline_eq
  · intro same
    cases left <;> cases right <;> simp only [outline,reduceCtorEq,Outline.var.injEq,
      Outline.neg.injEq,Outline.junction.injEq,Outline.conditional.injEq,
      Outline.biconditional.injEq,Multiset.coe_eq_coe,Sym2.eq_iff] at same
    case var.var => rw [same]
    case neg.neg => exact shape_neg same
    case junction.junction =>
      rw [same.1]
      exact shape_junction _ same.2
    case conditional.conditional => exact shape_conditional same.1 same.2
    case biconditional.biconditional left right left' right' =>
      rcases same with ⟨ofLeft,ofRight⟩ | ⟨ofLeft,ofRight⟩
      · exact shape_biconditional ofLeft ofRight
      · exact (shape_biconditional ofLeft ofRight).trans Rearranges.exchange.shape_eq

end Formula

section

variable {key : α → β} {value : β} {p : α → Bool}

theorem takeOut?_eq_some {xs rest : List α} (fits : ∀ x, p x ↔ value = key x)
    (found : takeOut? p xs = some rest) : (xs.map key).Perm (value :: rest.map key) := by
  induction xs generalizing rest with
  | nil => cases found
  | cons x xs ih =>
    rw [takeOut?] at found
    split at found
    next fit =>
      cases found
      rw [(fits x).mp fit,List.map_cons]
    next =>
      obtain ⟨within,foundWithin,rfl⟩ := Option.map_eq_some_iff.mp found
      exact ((ih foundWithin).cons (key x)).trans (.swap ..)

theorem takeOut?_eq_none {xs : List α} (fits : ∀ x, p x ↔ value = key x)
    (nowhere : takeOut? p xs = none) : value ∉ xs.map key := by
  induction xs with
  | nil => exact List.not_mem_nil
  | cons x xs ih =>
    rw [takeOut?] at nowhere
    split at nowhere
    next => cases nowhere
    next unfit =>
      rw [List.map_cons,List.mem_cons,not_or]
      exact ⟨fun same => unfit ((fits x).mpr same),ih (Option.map_eq_none_iff.mp nowhere)⟩

end

namespace Formula

/-- Taking the first partner that fits finds a pairing whenever there is one. -/
theorem sameOperands_iff {operands others : List Formula}
    (fits : ∀ operand ∈ operands, ∀ other, operand.sameShape other ↔ operand.shape = other.shape) :
    sameOperands operands others ↔ (operands.map shape).Perm (others.map shape) := by
  induction operands generalizing others with
  | nil => simp [sameOperands,List.nil_perm]
  | cons operand operands ih =>
    obtain ⟨first,fits⟩ := List.forall_mem_cons.mp fits
    rw [sameOperands,List.map_cons]
    split
    next rest found =>
      rw [ih fits,(takeOut?_eq_some first found).congr_right,List.perm_cons]
    next nowhere =>
      refine ⟨nofun,fun perm => ?_⟩
      exact absurd (perm.mem_iff.mp (List.mem_cons_self ..)) (takeOut?_eq_none first nowhere)

/-- Comparing shapes as formulas are compared when they run decides whether the shapes are one. -/
theorem sameShape_iff {left right : Formula} :
    left.sameShape right ↔ left.shape = right.shape := by
  rw [shape_eq_iff]
  induction left using ind generalizing right with
  | var name => cases right <;> simp [sameShape,outline]
  | neg operand ih => cases right <;> simp [sameShape,outline,ih,shape_eq_iff]
  | conditional left right ihLeft ihRight =>
    cases right <;> simp [sameShape,outline,ihLeft,ihRight,shape_eq_iff]
  | biconditional left right ihLeft ihRight =>
    cases right <;> simp [sameShape,outline,ihLeft,ihRight,shape_eq_iff]
  | junction kind operands ih =>
    have paired : ∀ {others}, sameOperands operands others ↔
        (operands.map shape).Perm (others.map shape) :=
      sameOperands_iff fun operand member _ => (ih operand member).trans shape_eq_iff.symm
    cases right <;> simp [sameShape,outline,paired]

theorem size_junction (kind : Junction) (operands : List Formula) :
    (junction kind operands).size = (operands.map size).foldl (· + ·) 1 := by
  rw [size,fold,foldEach_eq_map]
  rfl

/-- Rearranging moves nodes about, but it adds none and takes none away. -/
theorem Rearranges.size_eq {formula formula' : Formula} (step : Rearranges formula formula') :
    formula.size = formula'.size := by
  induction step with
  | permute perm => rw [size_junction,size_junction,(perm.map size).foldl_eq]
  | operand _ ih => simp only [size_junction,List.map_append,List.map_cons,ih]
  | exchange => simp [size,fold,Node.operands]; omega
  | neg _ ih => simpa [size,fold,Node.operands] using ih
  | antecedent _ ih => simpa [size,fold,Node.operands] using ih
  | consequent _ ih => simpa [size,fold,Node.operands] using ih
  | left _ ih => simpa [size,fold,Node.operands] using ih
  | right _ ih => simpa [size,fold,Node.operands] using ih

theorem Rearranges.leaves_perm {formula formula' : Formula} (step : Rearranges formula formula') :
    formula.leaves.Perm formula'.leaves := by
  induction step with
  | permute perm =>
    rw [leaves_junction,leaves_junction]
    exact perm.flatMap_right leaves
  | exchange =>
    rw [leaves_biconditional,leaves_biconditional]
    exact List.perm_append_comm
  | neg _ ih => rwa [leaves_neg,leaves_neg]
  | operand _ ih =>
    simp only [leaves_junction,List.flatMap_append,List.flatMap_cons]
    exact (ih.append_right _).append_left _
  | antecedent _ ih =>
    rw [leaves_conditional,leaves_conditional]
    exact ih.append_right _
  | consequent _ ih =>
    rw [leaves_conditional,leaves_conditional]
    exact ih.append_left _
  | left _ ih =>
    rw [leaves_biconditional,leaves_biconditional]
    exact ih.append_right _
  | right _ ih =>
    rw [leaves_biconditional,leaves_biconditional]
    exact ih.append_left _

/-- A shape has a number of nodes and, up to order, names at its leaves. -/
theorem size_leaves_of_shape_eq {left right : Formula} (same : left.shape = right.shape) :
    left.size = right.size ∧ left.leaves.Perm right.leaves := by
  induction shape_eq_iff_rearranges.mp same with
  | refl => exact ⟨rfl,.refl _⟩
  | tail steps step ih =>
    obtain ⟨size,leaves⟩ := ih (shape_eq_iff_rearranges.mpr steps)
    exact ⟨size.trans step.size_eq,leaves.trans step.leaves_perm⟩

end Formula
end Sentential
