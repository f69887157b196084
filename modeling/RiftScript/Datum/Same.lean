/-
When two data are the same.

`beq` compares what data are made of. `same` compares what they stand for: numbers by their exact
values, whatever their type, and mappings without regard to the order of their keys.
-/
import RiftScript.Datum.Basic

namespace RiftScript
namespace Datum

mutual

def beq : Datum → Datum → Bool
  | null, null => true
  | bool a, bool b => a == b
  | int m, int n => m == n
  | float x, float y => decide (x = y)
  | text s, text t => s == t
  | list xs, list ys => beqItems xs ys
  | dict es, dict fs => beqEntries es fs
  | set xs, set ys => beqItems xs ys
  | _, _ => false

def beqItems : List Datum → List Datum → Bool
  | [], [] => true
  | x :: xs, y :: ys => x.beq y && beqItems xs ys
  | _, _ => false

def beqEntries : List (Datum × Datum) → List (Datum × Datum) → Bool
  | [], [] => true
  | (j, x) :: es, (k, y) :: fs => j.beq k && x.beq y && beqEntries es fs
  | _, _ => false

end

mutual

theorem eq_of_beq : (a b : Datum) → a.beq b = true → a = b
  | null, b, h => by cases b <;> simp_all [beq]
  | bool _, b, h => by cases b <;> simp_all [beq]
  | int _, b, h => by cases b <;> simp_all [beq]
  | float _, b, h => by cases b <;> simp_all [beq]
  | text _, b, h => by cases b <;> simp_all [beq]
  | list xs, b, h => by
    cases b with
    | list ys => rw [eq_of_beqItems xs ys (by simpa [beq] using h)]
    | _ => simp [beq] at h
  | dict es, b, h => by
    cases b with
    | dict fs => rw [eq_of_beqEntries es fs (by simpa [beq] using h)]
    | _ => simp [beq] at h
  | set xs, b, h => by
    cases b with
    | set ys => rw [eq_of_beqItems xs ys (by simpa [beq] using h)]
    | _ => simp [beq] at h

theorem eq_of_beqItems : (xs ys : List Datum) → beqItems xs ys = true → xs = ys
  | [], ys, h => by cases ys <;> simp_all [beqItems]
  | x :: xs, [], h => by simp [beqItems] at h
  | x :: xs, y :: ys, h => by
    have h := (Bool.and_eq_true _ _).mp (by simpa only [beqItems] using h)
    rw [eq_of_beq x y h.1, eq_of_beqItems xs ys h.2]

theorem eq_of_beqEntries : (es fs : List (Datum × Datum)) → beqEntries es fs = true → es = fs
  | [], fs, h => by cases fs <;> simp_all [beqEntries]
  | (j, x) :: es, [], h => by simp [beqEntries] at h
  | (j, x) :: es, (k, y) :: fs, h => by
    have h : (j.beq k = true ∧ x.beq y = true) ∧ beqEntries es fs = true := by
      simpa only [beqEntries, Bool.and_eq_true] using h
    rw [eq_of_beq j k h.1.1, eq_of_beq x y h.1.2, eq_of_beqEntries es fs h.2]

end

mutual

theorem beq_self : (a : Datum) → a.beq a = true
  | null => rfl
  | bool _ | int _ | float _ | text _ => by simp [beq]
  | list xs => by rw [beq, beqItems_self xs]
  | dict es => by rw [beq, beqEntries_self es]
  | set xs => by rw [beq, beqItems_self xs]

theorem beqItems_self : (xs : List Datum) → beqItems xs xs = true
  | [] => rfl
  | x :: xs => by rw [beqItems, beq_self x, beqItems_self xs, Bool.and_self]

theorem beqEntries_self : (es : List (Datum × Datum)) → beqEntries es es = true
  | [] => rfl
  | (k, x) :: es => by
    rw [beqEntries, beq_self k, beq_self x, beqEntries_self es, Bool.and_self, Bool.and_self]

end

instance : DecidableEq Datum := fun a b =>
  if h : a.beq b = true then isTrue (eq_of_beq a b h)
  else isFalse fun e => h (e ▸ beq_self a)

mutual

def same : Datum → Datum → Bool
  | list xs, list ys => sameItems xs ys
  | dict es, dict fs => es.length == fs.length && sameEntries es fs
  | set xs, set ys => xs.length == ys.length && xs.all fun x => ys.any x.sameKey
  | a, b => a.sameKey b

def sameItems : List Datum → List Datum → Bool
  | [], [] => true
  | x :: xs, y :: ys => x.same y && sameItems xs ys
  | _, _ => false

/-- Whether every key of one mapping has the same datum in another. -/
def sameEntries : List (Datum × Datum) → List (Datum × Datum) → Bool
  | [], _ => true
  | (k, x) :: es, fs =>
    (match fs.find? fun f => f.1.sameKey k with
      | some f => x.same f.2
      | none => false) && sameEntries es fs

end

end Datum
end RiftScript
