import Mathlib.Algebra.Order.Ring.Nat
import Signpost.Proofs.Cache.Answers
import Signpost.Settings.Basic

/-! # Lifetimes of settings

The seconds that settings give for the lifetime of an entry pass through a signed number of 64 bits,
through a span and through the instant of its expiry, each of which has limits of its own. No limit
shows but the last: an entry is found for exactly as many seconds, up to the latest instant there
is. -/

namespace Signpost

/-! ## Seconds, spans and expiries -/

theorem toInt_toInt64 {n : UInt64} (hn : n.toNat < 2 ^ 63) : n.toInt64.toInt = n.toNat := by
  have hlt : 2 * n.toBitVec.toNat < 2 ^ 64 := by
    rw [UInt64.toNat_toBitVec]
    omega
  rw [← Int64.toInt_toBitVec, UInt64.toBitVec_toInt64, BitVec.toInt_eq_toNat_of_lt hlt,
    UInt64.toNat_toBitVec]

namespace Settings.Directory

/-- The seconds of a lifetime as a signed number of 64 bits, if they fit into one. -/
def signedTtl? (d : Directory) : Option Int64 :=
  if d.ttlSeconds.toNat < 2 ^ 63 then some d.ttlSeconds.toInt64 else none

/-- Seconds that are too many for a signed number are too many for a span. -/
theorem ttl_eq_signed (d : Directory) :
    d.ttl = (d.signedTtl?.bind fun seconds =>
      Time.Span.ofSeconds? seconds.toInt).getD .longest := by
  unfold ttl signedTtl?
  split
  next hn => rw [Option.bind_some, toInt_toInt64 hn]
  next hn =>
    have hnone : Time.Span.ofSeconds? d.ttlSeconds.toNat = none := by
      rw [Time.Span.ofSeconds?, Time.Span.ofNs?, dif_neg]
      unfold Time.maxSpanMs
      omega
    rw [hnone, Option.bind_none]

theorem ttl_ns (d : Directory) :
    d.ttl.ns = min ((d.ttlSeconds.toNat : Int) * 1000000000) (Time.maxSpanMs * 1000000) := by
  unfold ttl Time.Span.ofSeconds? Time.Span.ofNs?
  split
  next h => exact (Int.min_eq_left h.2).symm
  next h =>
    have hlow : -(Time.maxSpanMs * 1000000) ≤ (d.ttlSeconds.toNat : Int) * 1000000000 := by
      unfold Time.maxSpanMs
      omega
    have hhigh : Time.maxSpanMs * 1000000 ≤ (d.ttlSeconds.toNat : Int) * 1000000000 := by omega
    exact (Int.min_eq_right hhigh).symm

theorem ttl_nonneg (d : Directory) : 0 ≤ d.ttl.ns := by
  rw [ttl_ns]
  unfold Time.maxSpanMs
  omega

theorem ttl_mono {d d' : Directory} (h : d.ttlSeconds ≤ d'.ttlSeconds) : d.ttl.ns ≤ d'.ttl.ns := by
  have hle := UInt64.le_iff_toNat_le.mp h
  rw [ttl_ns, ttl_ns]
  omega

/-- The longest span reaches over all instants, so that only the latest one ends a lifetime. -/
theorem expiryNs_ttl (d : Directory) (t : Time.Instant) :
    Cache.expiryNs d.ttl t = min (t.ns + d.ttlSeconds.toNat * 1000000000) Time.latestNs := by
  have hlow := t.earliest_le
  have hhigh := t.le_latest
  rw [Cache.expiryNs, ttl_ns]
  unfold Time.maxSpanMs Time.earliestNs Time.latestNs at *
  split <;> omega

end Settings.Directory

/-! ## Longer lifetimes -/

theorem Cache.expiryNs_mono {ttl ttl' : Time.Span} (hpos : 0 ≤ ttl.ns) (hle : ttl.ns ≤ ttl'.ns)
    (t : Time.Instant) : expiryNs ttl t ≤ expiryNs ttl' t := by
  have hlow := t.earliest_le
  unfold expiryNs
  split <;> split <;> omega

namespace Shelf

variable {ttl ttl' : Time.Span} {key : String}

theorem Operation.Spares.mono {t : Time.Instant} {op : Operation} (h : op.Spares ttl key t)
    (hpos : 0 ≤ ttl.ns) (hle : ttl.ns ≤ ttl'.ns) : op.Spares ttl' key t :=
  ⟨h.unwritten, h.unremoved, fun seen hseen =>
    Int.lt_of_lt_of_le (h.unpurged seen hseen) (Cache.expiryNs_mono hpos hle t)⟩

/-- What a cache finds it finds with a longer lifetime too, whatever is done to it. -/
theorem get_performAll_mono (hpos : 0 ≤ ttl.ns) (hle : ttl.ns ≤ ttl'.ns) {ops : List Operation}
    {now : Time.Instant} {url : Url}
    (h : (((empty ttl).performAll ops).2.get key now).1 = some url) :
    (((empty ttl').performAll ops).2.get key now).1 = some url := by
  obtain ⟨t, ⟨before, op, later, hops, hwrites, hspares⟩, hlt⟩ := get_performAll_iff.mp h
  have hstands : Stands ttl' ops key url t :=
    ⟨before, op, later, hops, hwrites, fun next hnext => (hspares next hnext).mono hpos hle⟩
  exact get_performAll_iff.mpr ⟨t, hstands, Int.lt_of_lt_of_le hlt (Cache.expiryNs_mono hpos hle t)⟩

/-- A URL that was put last is found before its expiry. -/
theorem get_put_iff {ops : List Operation} {t now : Time.Instant} {url : Url} :
    (((empty ttl).performAll (ops ++ [.put key url t])).2.get key now).1 = some url ↔
      now.ns < Cache.expiryNs ttl t := by
  have hwrites : (Operation.put key url t).writes? key = some (url, t) := if_pos rfl
  rw [get_performAll_iff]
  constructor
  · rintro ⟨t', hstands, hlt⟩
    rcases stands_append_singleton.mp hstands with hw | ⟨hspares, -⟩
    · obtain ⟨-, rfl⟩ := Prod.mk.inj (Option.some.inj (hwrites.symm.trans hw))
      exact hlt
    · rw [hspares.unwritten] at hwrites
      cases hwrites
  · intro hlt
    exact ⟨t, stands_append_singleton.mpr (.inl hwrites), hlt⟩

end Shelf

/-! ## Lifetimes in seconds -/

open Signpost.Shelf

/-- A cache with the lifetime of settings finds a URL that was put last for as many seconds as the
settings say, in numbers without bounds, but not at the latest instant there is. With more seconds
it finds whatever it found with fewer. -/
theorem Settings.Directory.lifetime_exact (d : Settings.Directory) :
    d.ttl = (d.signedTtl?.bind fun seconds => Time.Span.ofSeconds? seconds.toInt).getD .longest ∧
    (∀ (ops : List Operation) (key : String) (url : Url) (t now : Time.Instant),
      (((empty d.ttl).performAll (ops ++ [.put key url t])).2.get key now).1 = some url ↔
        now.ns < Time.latestNs ∧ now.ns - t.ns < d.ttlSeconds.toNat * 1000000000) ∧
    ∀ d' : Settings.Directory, d.ttlSeconds ≤ d'.ttlSeconds →
      ∀ (ops : List Operation) (key : String) (now : Time.Instant) (url : Url),
        (((empty d.ttl).performAll ops).2.get key now).1 = some url →
          (((empty d'.ttl).performAll ops).2.get key now).1 = some url := by
  refine ⟨d.ttl_eq_signed, ?_, ?_⟩
  · intro ops key url t now
    rw [get_put_iff, expiryNs_ttl]
    omega
  · intro d' hle ops key now url h
    exact get_performAll_mono d.ttl_nonneg (ttl_mono hle) h

/-- Settings with a lifetime. -/
def Settings.Directory.lasting (seconds : UInt64) : Settings.Directory :=
  ⟨"https://host", seconds, 60, 3, 500, 10000, .exponential, 10, true⟩

/-- An entry of one second is found a nanosecond before its end, and with the most seconds there are
it is found too. -/
theorem Settings.Directory.lifetime_exact_lasting :
    ∃ (url : Url) (now : Time.Instant), now.ns = 999999999 ∧
      (((empty (lasting 1).ttl).performAll ([] ++ [.put "k" url .epoch])).2.get "k" now).1 =
        some url ∧
      (lasting 1).ttlSeconds ≤ (lasting 18446744073709551615).ttlSeconds ∧
      (((empty (lasting 18446744073709551615).ttl).performAll
        ([] ++ [.put "k" url .epoch])).2.get "k" now).1 = some url := by
  let url : Url := ⟨"https".toList, .unrooted [], none, none⟩
  let now : Time.Instant := ⟨999999999, by decide, by decide⟩
  obtain ⟨-, hfound, hmore⟩ := lifetime_exact (lasting 1)
  have hshort := (hfound [] "k" url .epoch now).mpr (by decide)
  have hle : (lasting 1).ttlSeconds ≤ (lasting 18446744073709551615).ttlSeconds := by decide
  exact ⟨url, now, rfl, hshort, hle, hmore _ hle _ _ _ _ hshort⟩

end Signpost
