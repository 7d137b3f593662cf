import LogDevice.LogsConfig.Tree

/-!
# Attributes and their inheritance

Model of `Attribute<T>` and of the merging constructors `Attribute(attr, parent)` and
`LogAttributes(attrs, parent)` (`include/LogAttributes.h`). An attribute is unset, or holds a value
together with whether that value was inherited; merging with the parent keeps a value set on the
attribute itself and otherwise takes the parent's, marked inherited. `LogAttributes` merges each of
its fields so, the common values and the extras alike: here it is an attribute for each field of an
index type, the field `f` holding values of type `T f`.

Merging twice with one parent is merging once (`withParent_withParent`): that is what lets the tree
re-merge a node with its directory at any time without changing what the node set itself. A node's
attributes follow its directory's exactly when merging changes nothing (`withParent_eq_self_iff`):
what it inherits is the directory's current value, and it lacks only what the directory lacks.
-/

namespace LogDevice.LogsConfig

/-- `Attribute<T>`: no value, or a value and whether it was inherited. No constructor of the class
makes an inherited attribute without a value: `reset()` clears both. -/
inductive Attribute (T : Type) where
  | unset
  | set (value : T) (inherited : Bool)
  deriving DecidableEq, Repr

namespace Attribute

variable {T : Type}

/-- `Attribute::hasValue`. -/
def hasValue : Attribute T → Bool
  | unset => false
  | set _ _ => true

/-- `Attribute::isInherited`. -/
def isInherited : Attribute T → Bool
  | unset => false
  | set _ inherited => inherited

/-- `Attribute::asOptional`. -/
def asOptional : Attribute T → Option T
  | unset => none
  | set value _ => some value

/-- `Attribute(attr, parent)`, also `attr.withParent(parent)`: an attribute that is inherited or
unset takes the parent's value, marked inherited, or is reset where the parent has none; a value set
on the attribute itself stays. -/
def withParent (attr parent : Attribute T) : Attribute T :=
  if attr.isInherited || !attr.hasValue then
    match parent with
    | set value _ => set value true
    | unset => unset
  else attr

/-- Merging twice with one parent is merging once. -/
lemma withParent_withParent (attr parent : Attribute T) :
    (attr.withParent parent).withParent parent = attr.withParent parent := by
  -- after the first merge the attribute is its own or the parent's, inherited, or unset
  rcases attr with _ | ⟨value, _ | _⟩ <;> rcases parent with _ | ⟨value', _ | _⟩ <;> rfl

/-- An attribute follows its parent when merging changes nothing: what it inherits is the parent's
value, and it is unset only where the parent is. -/
lemma withParent_eq_self_iff (attr parent : Attribute T) :
    attr.withParent parent = attr ↔
      (attr.isInherited = true → attr.hasValue = true ∧ attr.asOptional = parent.asOptional) ∧
        (attr.hasValue = false → parent.hasValue = false) := by
  rcases attr with _ | ⟨value, _ | _⟩
  · -- unset: the parent must be unset too
    cases parent <;> simp [withParent, hasValue, isInherited]
  · -- a value of its own stays
    simp [withParent, hasValue, isInherited]
  · -- an inherited value: the parent's, marked inherited
    rcases parent with _ | ⟨value', inherited'⟩
    · simp [withParent, hasValue, isInherited, asOptional]
    · simp only [withParent, isInherited, Bool.true_or, if_true, set.injEq, and_true, hasValue,
        asOptional, Option.some.injEq, true_and, Bool.true_eq_false, false_implies, and_true,
        forall_const]
      exact eq_comm

end Attribute

/-- `LogAttributes`: an `Attribute` for each field (`replicationFactor`, ..., `tailOptimized`, and
the `extras`), the field `f` holding values of type `T f`. -/
def LogAttributes (Field : Type) (T : Field → Type) : Type := (f : Field) → Attribute (T f)

namespace LogAttributes

variable {Field : Type} {T : Field → Type}

/-- `LogAttributes()`: every field unset. -/
def unset : LogAttributes Field T := fun _ => .unset

/-- `LogAttributes(attrs, parent)`: each field merged with the parent's. -/
def withParent (attrs parent : LogAttributes Field T) : LogAttributes Field T :=
  fun f => (attrs f).withParent (parent f)

/-- Attributes that follow the parent's, field by field: an inherited field holds the parent's
current value, and a field is unset only where the parent's is. -/
def InheritsFrom (attrs parent : LogAttributes Field T) : Prop :=
  ∀ f, ((attrs f).isInherited = true →
      (attrs f).hasValue = true ∧ (attrs f).asOptional = (parent f).asOptional) ∧
    ((attrs f).hasValue = false → (parent f).hasValue = false)

lemma withParent_withParent (attrs parent : LogAttributes Field T) :
    (attrs.withParent parent).withParent parent = attrs.withParent parent := by
  funext f
  exact Attribute.withParent_withParent (attrs f) (parent f)

lemma withParent_eq_self_iff (attrs parent : LogAttributes Field T) :
    attrs.withParent parent = attrs ↔ attrs.InheritsFrom parent := by
  constructor
  · intro h f
    exact (Attribute.withParent_eq_self_iff (attrs f) (parent f)).mp (congrFun h f)
  · intro h
    funext f
    exact (Attribute.withParent_eq_self_iff (attrs f) (parent f)).mpr (h f)

end LogAttributes

/-- A model of attributes in which merging twice with one parent is merging once. -/
def AttributesModel.InheritIdempotent {Attrs : Type} (A : AttributesModel Attrs) : Prop :=
  ∀ attrs parent, A.inherit (A.inherit attrs parent) parent = A.inherit attrs parent

/-- What the tree does with `LogAttributes`: `LogAttributes()`, `LogAttributes(attrs, parent)`, and
the checks of `LogGroupNode::isValid`. -/
def logAttributesModel {Field : Type} {T : Field → Type}
    (valid : LogAttributes Field T → Bool) : AttributesModel (LogAttributes Field T) where
  none := .unset
  inherit := .withParent
  valid := valid

lemma logAttributesModel_inheritIdempotent {Field : Type} {T : Field → Type}
    (valid : LogAttributes Field T → Bool) : (logAttributesModel valid).InheritIdempotent :=
  LogAttributes.withParent_withParent

end LogDevice.LogsConfig
