import OfflineReels.Instagram.Database

namespace OfflineReels.Instagram

open OfflineReels.Foundation

/-! The constraints that the stored Reels satisfy.  Every write keeps them. -/

structure Database.ReelsConsistent (database : Database) : Prop where
  checks : ∀ reel ∈ database.reels, reel.satisfiesChecks = true
  unique : ∀ reel ∈ database.reels, ∀ other ∈ database.reels,
    reel.conflictsWith other = false

namespace InstagramReel

theorem conflictsWith_comm (reel other : InstagramReel) :
    reel.conflictsWith other = other.conflictsWith reel := by
  simp only [conflictsWith]
  rw [Bool.eq_iff_iff]
  simp only [Bool.and_eq_true, Bool.or_eq_true, decide_eq_true_eq]
  constructor
  · rintro ⟨differ, ((same | same) | ⟨present, same⟩) | ⟨present, same⟩⟩
    · exact ⟨differ.symm, .inl (.inl (.inl same.symm))⟩
    · exact ⟨differ.symm, .inl (.inl (.inr same.symm))⟩
    · exact ⟨differ.symm, .inl (.inr ⟨same ▸ present, same.symm⟩)⟩
    · exact ⟨differ.symm, .inr ⟨same ▸ present, same.symm⟩⟩
  · rintro ⟨differ, ((same | same) | ⟨present, same⟩) | ⟨present, same⟩⟩
    · exact ⟨differ.symm, .inl (.inl (.inl same.symm))⟩
    · exact ⟨differ.symm, .inl (.inl (.inr same.symm))⟩
    · exact ⟨differ.symm, .inl (.inr ⟨same ▸ present, same.symm⟩)⟩
    · exact ⟨differ.symm, .inr ⟨same ▸ present, same.symm⟩⟩

theorem conflictsWith_self (reel : InstagramReel) :
    reel.conflictsWith reel = false := by
  simp [conflictsWith]

theorem satisfiesChecks_durable {reel : InstagramReel}
    (checks : reel.satisfiesChecks = true)
    (durable : reel.pipelineStatus.isDurable = true) :
    reel.sourceObjectKey.isSome = true ∧ reel.sourceSha256.isSome = true ∧
      reel.sourceByteSize.isSome = true := by
  simp only [satisfiesChecks, durable, Bool.not_true, Bool.false_or,
    Bool.and_eq_true] at checks
  exact ⟨checks.1.2.1.1, checks.1.2.1.2, checks.1.2.2⟩

theorem satisfiesChecks_ready {reel : InstagramReel}
    (checks : reel.satisfiesChecks = true)
    (ready : reel.pipelineStatus = .ready) : reel.videoId.isSome = true := by
  simp only [satisfiesChecks, ready, Bool.and_eq_true] at checks
  simpa using checks.2

end InstagramReel

namespace Database.ReelsConsistent

variable {database after : Database}

theorem id_eq_of_shortcode (consistent : database.ReelsConsistent)
    {reel other : InstagramReel} (member : reel ∈ database.reels)
    (otherMember : other ∈ database.reels)
    (same : reel.shortcode = other.shortcode) : reel.id = other.id := by
  have unique := consistent.unique reel member other otherMember
  simp only [InstagramReel.conflictsWith, same, decide_true, Bool.true_or,
    Bool.and_true, decide_eq_false_iff_not, not_not] at unique
  exact unique

theorem eq_of_shortcode (consistent : database.ReelsConsistent)
    {reel other : InstagramReel} (member : reel ∈ database.reels)
    (otherMember : other ∈ database.reels)
    (same : reel.shortcode = other.shortcode) : reel = other :=
  Table.eq_of_key_eq member otherMember
    (consistent.id_eq_of_shortcode member otherMember same)

theorem eq_of_videoId (consistent : database.ReelsConsistent)
    {reel other : InstagramReel} {videoId : UUID}
    (member : reel ∈ database.reels) (otherMember : other ∈ database.reels)
    (named : reel.videoId = some videoId)
    (otherNamed : other.videoId = some videoId) : reel = other := by
  apply Table.eq_of_key_eq member otherMember
  have unique := consistent.unique reel member other otherMember
  simp only [InstagramReel.conflictsWith, named, otherNamed, Option.isSome_some,
    decide_true, Bool.and_self, Bool.or_true, Bool.and_true,
    decide_eq_false_iff_not, not_not] at unique
  exact unique

theorem insertReel (consistent : database.ReelsConsistent)
    {reel : InstagramReel} (inserted : database.insertReel reel = .ok after) :
    after.ReelsConsistent := by
  obtain ⟨reels, shape, checks, unique, rfl⟩ := insertReel_eq_ok inserted
  constructor
  · intro row member
    rcases (Table.mem_insert? shape).mp member with present | rfl
    · exact consistent.checks row present
    · exact checks
  · have stored : database.reels.Unique InstagramReel.conflictsWith :=
      consistent.unique
    exact stored.insert? InstagramReel.conflictsWith_comm
      InstagramReel.conflictsWith_self shape unique

theorem writeReel (consistent : database.ReelsConsistent)
    {reel : InstagramReel} (written : database.writeReel reel = .ok after) :
    after.ReelsConsistent := by
  obtain ⟨checks, unique, rfl⟩ := writeReel_eq_ok written
  constructor
  · intro row member
    rcases Table.mem_put.mp member with ⟨rfl, _⟩ | ⟨present, _⟩
    · exact checks
    · exact consistent.checks row present
  · have stored : database.reels.Unique InstagramReel.conflictsWith :=
      consistent.unique
    exact stored.put InstagramReel.conflictsWith_comm
      InstagramReel.conflictsWith_self unique

end Database.ReelsConsistent

end OfflineReels.Instagram
