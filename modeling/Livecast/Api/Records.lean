import Livecast.Json.Record
import Livecast.Previews
import Livecast.ResolutionList

/-!
# Records of the administration interface

What a client and the server tell each other about channels, live streams and recordings.

## Main Definitions

* `Api.IngestBases`, `Api.ChannelDraft`, `Api.ChannelChange`, `Api.ChannelCredentials` - channel
  administration
* `Api.StreamVariant`, `Api.ChannelState` - the public state of a channel
* `Api.Recording`, `Api.RecordingList`, `Api.RecordingPlayback` - recordings
-/

namespace Livecast.Api

open Livecast.Json

/-- Where encoders publish to. -/
structure IngestBases where
  /-- The base address for RTMP. -/
  rtmpBaseUrl : String
  /-- The base address for WebSocket. -/
  wssBaseUrl : String
deriving DecidableEq

instance : Record IngestBases where
  fields := [single "rtmp_base_url" .text, single "wss_base_url" .text]
  toData d := [.single (.text d.rtmpBaseUrl), .single (.text d.wssBaseUrl)]
  ofData?
    | [.single (.text rtmp), .single (.text wss)] => some ⟨rtmp, wss⟩
    | _ => none

/-- A channel that is to be created. -/
structure ChannelDraft where
  /-- The name of the channel. -/
  id : String
  /-- Its streams are recorded. -/
  record : Bool
  /-- The transcoding targets in their written form. -/
  resolutions : String
  /-- The preview settings in their written form. -/
  previews : String
deriving DecidableEq

/-- The draft of a channel with the given settings. -/
def ChannelDraft.ofSettings (id : String) (record : Bool) (resolutions : ResolutionList)
    (previews : Previews) : ChannelDraft :=
  ⟨id, record, resolutions.text, previews.text⟩

instance : Record ChannelDraft where
  fields := [single "id" .text, single "record" .flag, single "resolutions" .text,
    single "previews" .text]
  toData d := [.single (.text d.id), .single (.flag d.record), .single (.text d.resolutions),
    .single (.text d.previews)]
  ofData?
    | [.single (.text id), .single (.flag record), .single (.text resolutions),
        .single (.text previews)] => some ⟨id, record, resolutions, previews⟩
    | _ => none

/-- New settings of a channel, with its key as proof of ownership. -/
structure ChannelChange where
  /-- The key of the channel. -/
  key : String
  /-- Its streams are recorded. -/
  record : Bool
  /-- The transcoding targets in their written form. -/
  resolutions : String
  /-- The preview settings in their written form. -/
  previews : String
deriving DecidableEq

instance : Record ChannelChange where
  fields := [single "key" .text, single "record" .flag, single "resolutions" .text,
    single "previews" .text]
  toData d := [.single (.text d.key), .single (.flag d.record), .single (.text d.resolutions),
    .single (.text d.previews)]
  ofData?
    | [.single (.text key), .single (.flag record), .single (.text resolutions),
        .single (.text previews)] => some ⟨key, record, resolutions, previews⟩
    | _ => none

/-- A channel after it was created or changed, or got a new key. -/
structure ChannelCredentials where
  /-- The name of the channel. -/
  id : String
  /-- The key that is now in force. -/
  key : String
  /-- Its streams are recorded. -/
  record : Bool
  /-- The transcoding targets in their written form. -/
  resolutions : String
  /-- The preview settings in their written form. -/
  previews : String
deriving DecidableEq

instance : Record ChannelCredentials where
  fields := [single "id" .text, single "key" .text, single "record" .flag,
    single "resolutions" .text, single "previews" .text]
  toData d := [.single (.text d.id), .single (.text d.key), .single (.flag d.record),
    .single (.text d.resolutions), .single (.text d.previews)]
  ofData?
    | [.single (.text id), .single (.text key), .single (.flag record),
        .single (.text resolutions), .single (.text previews)] =>
      some ⟨id, key, record, resolutions, previews⟩
    | _ => none

/-- One transcoded rendition of a stream. -/
structure StreamVariant where
  /-- Picture width in pixels. -/
  width : UInt32
  /-- Picture height in pixels. -/
  height : UInt32
  /-- Frames per second. -/
  fps : UInt32
  /-- The playlist of the rendition. -/
  indexFile : String
deriving DecidableEq

namespace StreamVariant

/-- The fields of a rendition. -/
def fields : List (Field Kind Datum) :=
  [required "width" .word, required "height" .word, required "fps" .word,
    required "indexFile" .text]

/-- The values of a rendition's fields. -/
def toRow (s : StreamVariant) : List Datum :=
  [.word s.width, .word s.height, .word s.fps, .text s.indexFile]

/-- The rendition with the given fields. -/
def ofRow? : List Datum → Option StreamVariant
  | [.word width, .word height, .word fps, .text indexFile] => some ⟨width, height, fps, indexFile⟩
  | _ => none

end StreamVariant

instance : Record StreamVariant where
  fields := StreamVariant.fields.map fun f => single f.name f.kind
  toData s := s.toRow.map .single
  ofData?
    | [.single width, .single height, .single fps, .single indexFile] =>
      StreamVariant.ofRow? [width, height, fps, indexFile]
    | _ => none

/-- The public state of a channel. -/
structure ChannelState where
  /-- The name of the channel. -/
  id : String
  /-- Its streams are recorded. -/
  record : Bool
  /-- The transcoding targets in their written form. -/
  resolutions : String
  /-- The preview settings in their written form. -/
  previews : String
  /-- A stream is being published. -/
  live : Bool
  /-- The name of that stream. -/
  streamId : String
  /-- When it began. -/
  liveStartTimestamp : Int64
  /-- Its renditions. -/
  liveSubStreams : List StreamVariant
deriving DecidableEq

namespace ChannelState

/-- The transcoding targets of the channel. -/
def targets (s : ChannelState) : ResolutionList := ResolutionList.decode s.resolutions

/-- The preview settings of the channel. -/
def previewSettings (s : ChannelState) : Previews := Previews.decode s.previews

end ChannelState

instance : Record ChannelState where
  fields := [single "id" .text, single "record" .flag, single "resolutions" .text,
    single "previews" .text, single "live" .flag, single "streamId" .text,
    single "liveStartTimestamp" .long, listOf "liveSubStreams" StreamVariant.fields]
  toData s := [.single (.text s.id), .single (.flag s.record), .single (.text s.resolutions),
    .single (.text s.previews), .single (.flag s.live), .single (.text s.streamId),
    .single (.long s.liveStartTimestamp), .records (s.liveSubStreams.map StreamVariant.toRow)]
  ofData?
    | [.single (.text id), .single (.flag record), .single (.text resolutions),
        .single (.text previews), .single (.flag live), .single (.text streamId),
        .single (.long start), .records rows] =>
      (rows.mapM StreamVariant.ofRow?).map
        fun subs => ⟨id, record, resolutions, previews, live, streamId, start, subs⟩
    | _ => none

/-- A recording in a list of recordings. -/
structure Recording where
  /-- The name of the recorded stream. -/
  streamId : String
  /-- When it began, as text. -/
  timestamp : String
deriving DecidableEq

namespace Recording

/-- The fields of an item. -/
def fields : List (Field Kind Datum) := [required "streamId" .text, required "timestamp" .text]

/-- The values of an item's fields. -/
def toRow (v : Recording) : List Datum := [.text v.streamId, .text v.timestamp]

/-- The item with the given fields. -/
def ofRow? : List Datum → Option Recording
  | [.text streamId, .text timestamp] => some ⟨streamId, timestamp⟩
  | _ => none

end Recording

instance : Record Recording where
  fields := Recording.fields.map fun f => single f.name f.kind
  toData v := v.toRow.map .single
  ofData?
    | [.single streamId, .single timestamp] => Recording.ofRow? [streamId, timestamp]
    | _ => none

/-- The recordings of a channel. -/
structure RecordingList where
  /-- The recordings, in the server's order. -/
  items : List Recording
deriving DecidableEq, Inhabited

instance : Record RecordingList where
  fields := [listOf "vod_list" Recording.fields]
  toData l := [.records (l.items.map Recording.toRow)]
  ofData?
    | [.records rows] => (rows.mapM Recording.ofRow?).map RecordingList.mk
    | _ => none

/-- What a player needs to know about a recording. -/
structure RecordingPlayback where
  /-- The name of the recorded stream. -/
  streamId : String
  /-- When it began. -/
  timestamp : Int64
  /-- Its renditions. -/
  subStreams : List StreamVariant
  /-- There are preview thumbnails. -/
  hasPreviews : Bool
  /-- The list of the thumbnails. -/
  previewsIndex : String
deriving DecidableEq

instance : Record RecordingPlayback where
  fields := [single "streamId" .text, single "timestamp" .long,
    listOf "subStreams" StreamVariant.fields, single "hasPreviews" .flag,
    single "previewsIndex" .text]
  toData v := [.single (.text v.streamId), .single (.long v.timestamp),
    .records (v.subStreams.map StreamVariant.toRow), .single (.flag v.hasPreviews),
    .single (.text v.previewsIndex)]
  ofData?
    | [.single (.text streamId), .single (.long timestamp), .records rows,
        .single (.flag hasPreviews), .single (.text previewsIndex)] =>
      (rows.mapM StreamVariant.ofRow?).map
        fun subs => ⟨streamId, timestamp, subs, hasPreviews, previewsIndex⟩
    | _ => none

end Livecast.Api
