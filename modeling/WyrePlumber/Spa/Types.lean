import WyrePlumber.Library.Python

/-!
# SPA types

The pod types, the enumerations and the property tables of the known SPA
objects, as `_spa_pod_types.py` declares them.
-/

set_option autoImplicit false

namespace WyrePlumber.Spa

open Python

section PodTypes

/-- The `SPA_TYPE_*` constants. -/
inductive PodType where
  | none | bool | id | int | long | float | double | string | bytes | rectangle | fraction | bitmap
  | array | struct | object | sequence | pointer | fd | choice | pod
  deriving DecidableEq

def PodType.code : PodType → Nat
  | none => 1
  | bool => 2
  | id => 3
  | int => 4
  | long => 5
  | float => 6
  | double => 7
  | string => 8
  | bytes => 9
  | rectangle => 10
  | fraction => 11
  | bitmap => 12
  | array => 13
  | struct => 14
  | object => 15
  | sequence => 16
  | pointer => 17
  | fd => 18
  | choice => 19
  | pod => 20

def PodType.ofCode? : Nat → Option PodType
  | 1 => some .none
  | 2 => some .bool
  | 3 => some .id
  | 4 => some .int
  | 5 => some .long
  | 6 => some .float
  | 7 => some .double
  | 8 => some .string
  | 9 => some .bytes
  | 10 => some .rectangle
  | 11 => some .fraction
  | 12 => some .bitmap
  | 13 => some .array
  | 14 => some .struct
  | 15 => some .object
  | 16 => some .sequence
  | 17 => some .pointer
  | 18 => some .fd
  | 19 => some .choice
  | 20 => some .pod
  | _ => Option.none

@[simp] theorem PodType.ofCode?_code (podType : PodType) :
    PodType.ofCode? podType.code = some podType := by
  cases podType <;> rfl

/-- The `SPA_CHOICE_*` constants. -/
inductive ChoiceType where
  | none | range | step | enum | flags
  deriving DecidableEq

def ChoiceType.code : ChoiceType → Nat
  | none => 0
  | range => 1
  | step => 2
  | enum => 3
  | flags => 4

def ChoiceType.ofCode? : Nat → Option ChoiceType
  | 0 => some .none
  | 1 => some .range
  | 2 => some .step
  | 3 => some .enum
  | 4 => some .flags
  | _ => Option.none

end PodTypes

section Enumerations

/-- The `IntEnum` classes of the module. -/
inductive EnumClass where
  | direction | mediaType | mediaSubtype | paramAvailability
  | paramBitorder | paramPortConfigMode | audioFormat | audioChannel
  | audioIec958Codec | audioAACStreamFormat | audioWMAProfile | audioAMRBandMode
  | audioMP3ChannelMode | audioDTSExtType | audioVolumeRampScale | bluetoothAudioCodec
  deriving DecidableEq

def EnumClass.name : EnumClass → PyString
  | direction => text "SpaDirection"
  | mediaType => text "SpaMediaType"
  | mediaSubtype => text "SpaMediaSubtype"
  | paramAvailability => text "SpaParamAvailability"
  | paramBitorder => text "SpaParamBitorder"
  | paramPortConfigMode => text "SpaParamPortConfigMode"
  | audioFormat => text "SpaAudioFormat"
  | audioChannel => text "SpaAudioChannel"
  | audioIec958Codec => text "SpaAudioIec958Codec"
  | audioAACStreamFormat => text "SpaAudioAACStreamFormat"
  | audioWMAProfile => text "SpaAudioWMAProfile"
  | audioAMRBandMode => text "SpaAudioAMRBandMode"
  | audioMP3ChannelMode => text "SpaAudioMP3ChannelMode"
  | audioDTSExtType => text "SpaAudioDTSExtType"
  | audioVolumeRampScale => text "SpaAudioVolumeRampScale"
  | bluetoothAudioCodec => text "SpaBluetoothAudioCodec"

/-- The members in the order of the class; a later name of one value is an alias. -/
def EnumClass.members : EnumClass → List (PyString × Int)
  | direction =>
      [(text "INPUT", 0), (text "OUTPUT", 1)]
  | mediaType =>
      [(text "UNKNOWN", 0), (text "AUDIO", 1), (text "VIDEO", 2), (text "IMAGE", 3),
       (text "BINARY", 4), (text "STREAM", 5), (text "APPLICATION", 6)]
  | mediaSubtype =>
      [(text "UNKNOWN", 0), (text "RAW", 1), (text "DSP", 2), (text "IEC958", 3), (text "DSD", 4),
       (text "START_AUDIO", 0x10000), (text "MP3", 0x10001), (text "AAC", 0x10002),
       (text "VORBIS", 0x10003), (text "WMA", 0x10004), (text "RA", 0x10005),
       (text "SBC", 0x10006), (text "ADPCM", 0x10007), (text "G723", 0x10008),
       (text "G726", 0x10009), (text "G729", 0x1000a), (text "AMR", 0x1000b),
       (text "GSM", 0x1000c), (text "ALAC", 0x1000d), (text "FLAC", 0x1000e),
       (text "APE", 0x1000f), (text "OPUS", 0x10010), (text "AC3", 0x10011),
       (text "EAC3", 0x10012), (text "TRUEHD", 0x10013), (text "DTS", 0x10014),
       (text "MPEGH", 0x10015), (text "START_VIDEO", 0x20000), (text "H264", 0x20001),
       (text "MJPG", 0x20002), (text "DV", 0x20003), (text "MPEGTS", 0x20004),
       (text "H263", 0x20005), (text "MPEG1", 0x20006), (text "MPEG2", 0x20007),
       (text "MPEG4", 0x20008), (text "XVID", 0x20009), (text "VC1", 0x2000a),
       (text "VP8", 0x2000b), (text "VP9", 0x2000c), (text "BAYER", 0x2000d),
       (text "H265", 0x2000e), (text "START_IMAGE", 0x30000), (text "JPEG", 0x30001),
       (text "START_BINARY", 0x40000), (text "START_STREAM", 0x50000), (text "MIDI", 0x50001),
       (text "START_APPLICATION", 0x60000), (text "CONTROL", 0x60001)]
  | paramAvailability =>
      [(text "UNKNOWN", 0), (text "NO", 1), (text "YES", 2)]
  | paramBitorder =>
      [(text "UNKNOWN", 0), (text "MSB", 1), (text "LSB", 2)]
  | paramPortConfigMode =>
      [(text "NONE", 0), (text "PASSTHROUGH", 1), (text "CONVERT", 2), (text "DSP", 3)]
  | audioFormat =>
      [(text "UNKNOWN", 0), (text "ENCODED", 1), (text "START_INTERLEAVED", 0x100),
       (text "S8", 0x101), (text "U8", 0x102), (text "S16_LE", 0x103), (text "S16_BE", 0x104),
       (text "U16_LE", 0x105), (text "U16_BE", 0x106), (text "S24_32_LE", 0x107),
       (text "S24_32_BE", 0x108), (text "U24_32_LE", 0x109), (text "U24_32_BE", 0x10a),
       (text "S32_LE", 0x10b), (text "S32_BE", 0x10c), (text "U32_LE", 0x10d),
       (text "U32_BE", 0x10e), (text "S24_LE", 0x10f), (text "S24_BE", 0x110),
       (text "U24_LE", 0x111), (text "U24_BE", 0x112), (text "S20_LE", 0x113),
       (text "S20_BE", 0x114), (text "U20_LE", 0x115), (text "U20_BE", 0x116),
       (text "S18_LE", 0x117), (text "S18_BE", 0x118), (text "U18_LE", 0x119),
       (text "U18_BE", 0x11a), (text "F32_LE", 0x11b), (text "F32_BE", 0x11c),
       (text "F64_LE", 0x11d), (text "F64_BE", 0x11e), (text "ULAW", 0x11f), (text "ALAW", 0x120),
       (text "START_PLANAR", 0x200), (text "U8P", 0x201), (text "S16P", 0x202),
       (text "S24_32P", 0x203), (text "S32P", 0x204), (text "S24P", 0x205), (text "F32P", 0x206),
       (text "F64P", 0x207), (text "S8P", 0x208), (text "START_OTHER", 0x400),
       (text "DSP_S32", 0x203), (text "DSP_F32", 0x206), (text "DSP_F64", 0x207)]
  | audioChannel =>
      [(text "UNKNOWN", 0), (text "NA", 1), (text "MONO", 2), (text "FL", 3), (text "FR", 4),
       (text "FC", 5), (text "LFE", 6), (text "SL", 7), (text "SR", 8), (text "FLC", 9),
       (text "FRC", 10), (text "RC", 11), (text "RL", 12), (text "RR", 13), (text "TC", 14),
       (text "TFL", 15), (text "TFC", 16), (text "TFR", 17), (text "TRL", 18), (text "TRC", 19),
       (text "TRR", 20), (text "RLC", 21), (text "RRC", 22), (text "FLW", 23), (text "FRW", 24),
       (text "LFE2", 25), (text "FLH", 26), (text "FCH", 27), (text "FRH", 28), (text "TFLC", 29),
       (text "TFRC", 30), (text "TSL", 31), (text "TSR", 32), (text "LLFE", 33),
       (text "RLFE", 34), (text "BC", 35), (text "BLC", 36), (text "BRC", 37),
       (text "START_AUX", 0x1000), (text "AUX0", 0x1000)]
  | audioIec958Codec =>
      [(text "UNKNOWN", 0), (text "PCM", 1), (text "DTS", 2), (text "AC3", 3), (text "MPEG", 4),
       (text "MPEG2_AAC", 5), (text "EAC3", 6), (text "TRUEHD", 7), (text "DTSHD", 8)]
  | audioAACStreamFormat =>
      [(text "UNKNOWN", 0), (text "RAW", 1), (text "MP2ADTS", 2), (text "MP4ADTS", 3),
       (text "MP4LOAS", 4), (text "MP4LATM", 5), (text "ADIF", 6), (text "MP4FF", 7),
       (text "CUSTOM", 0x10000)]
  | audioWMAProfile =>
      [(text "UNKNOWN", 0), (text "WMA7", 1), (text "WMA8", 2), (text "WMA9", 3),
       (text "WMA10", 4), (text "WMA9_PRO", 5), (text "WMA9_LOSSLESS", 6),
       (text "WMA10_LOSSLESS", 7), (text "CUSTOM", 0x10000)]
  | audioAMRBandMode =>
      [(text "UNKNOWN", 0), (text "NB", 1), (text "WB", 2)]
  | audioMP3ChannelMode =>
      [(text "UNKNOWN", 0), (text "MONO", 1), (text "STEREO", 2), (text "JOINTSTEREO", 3),
       (text "DUAL", 4)]
  | audioDTSExtType =>
      [(text "UNKNOWN", 0), (text "NONE", 1), (text "HD_HRA", 2), (text "HD_MA", 3)]
  | audioVolumeRampScale =>
      [(text "INVALID", 0), (text "LINEAR", 1), (text "CUBIC", 2)]
  | bluetoothAudioCodec =>
      [(text "START", 0), (text "SBC", 1), (text "SBC_XQ", 2), (text "MPEG", 3), (text "AAC", 4),
       (text "AAC_ELD", 5), (text "APTX", 6), (text "APTX_HD", 7), (text "LDAC", 8),
       (text "APTX_LL", 9), (text "APTX_LL_DUPLEX", 10), (text "FASTSTREAM", 11),
       (text "FASTSTREAM_DUPLEX", 12), (text "LC3PLUS_HR", 13), (text "OPUS_05", 14),
       (text "OPUS_05_51", 15), (text "OPUS_05_71", 16), (text "OPUS_05_DUPLEX", 17),
       (text "OPUS_05_PRO", 18), (text "OPUS_G", 19), (text "CVSD", 0x100), (text "MSBC", 0x101),
       (text "LC3_SWB", 0x102), (text "LC3_A127", 0x103), (text "LC3", 0x200),
       (text "G722", 0x300)]

/-- `enum_cls(value).name`; none where the class has no such value. -/
def EnumClass.nameOf? (enumClass : EnumClass) (value : Int) : Option PyString :=
  (enumClass.members.find? fun item => item.2 = value).map Prod.fst

/-- `enum_type[name]`. -/
def EnumClass.valueOf? (enumClass : EnumClass) (name : PyString) : Option Int :=
  enumClass.members.lookup name

end Enumerations

section Properties

/-- How a known property is specialised beyond its pod type. -/
inductive Shape where
  | dictInfo | params | labels | profileClasses | arrayInt | arrayFloat | arrayId | objectProps
  | objectFormat
  deriving DecidableEq

structure PropertySpec where
  key : Int
  name : PyString
  podType : Option PodType
  shape : Option Shape
  enumClass : Option EnumClass

namespace PropertySpec

def untyped (key : Int) (name : String) : PropertySpec := ⟨key, text name, none, none, none⟩

def typed (key : Int) (name : String) (podType : PodType) : PropertySpec :=
  ⟨key, text name, some podType, none, none⟩

def shaped (key : Int) (name : String) (podType : PodType) (shape : Shape) : PropertySpec :=
  ⟨key, text name, some podType, some shape, none⟩

def member (key : Int) (name : String) (enumClass : EnumClass) : PropertySpec :=
  ⟨key, text name, some .id, none, some enumClass⟩

def members (key : Int) (name : String) (enumClass : EnumClass) : PropertySpec :=
  ⟨key, text name, some .array, some .arrayId, some enumClass⟩

end PropertySpec

open PropertySpec

def propInfoSpecs : List PropertySpec :=
  [typed 1 "id" .id, typed 2 "name" .string, untyped 3 "type", shaped 4 "labels" .struct .labels,
   typed 5 "container" .id, typed 6 "params" .bool, typed 7 "description" .string]

def propsSpecs : List PropertySpec :=
  [untyped 1 "unknown", typed 0x101 "device" .string, typed 0x102 "deviceName" .string,
   typed 0x103 "deviceFd" .fd, typed 0x104 "card" .string, typed 0x105 "cardName" .string,
   typed 0x106 "minLatency" .int, typed 0x107 "maxLatency" .int, typed 0x108 "periods" .int,
   typed 0x109 "periodSize" .int, typed 0x10a "periodEvent" .bool, typed 0x10b "live" .bool,
   typed 0x10c "rate" .int, typed 0x10d "quality" .int,
   member 0x10e "bluetoothAudioCodec" .bluetoothAudioCodec,
   typed 0x10f "bluetoothOffloadActive" .bool, shaped 0x80001 "params" .struct .params,
   typed 0x111 "clockId" .int, typed 0x112 "clockName" .string,
   typed 0x113 "clockQuantumLimit" .int, typed 0x114 "clockMinQuantum" .int,
   typed 0x115 "clockMaxQuantum" .int, typed 0x116 "clockRate" .int,
   shaped 0x117 "clockAllowedRates" .array .arrayInt,
   shaped 0x118 "clockForceRates" .array .arrayInt, typed 0x10001 "waveType" .id,
   typed 0x10002 "frequency" .float, typed 0x10003 "volume" .float, typed 0x10004 "mute" .bool,
   typed 0x10005 "patternType" .id, typed 0x10006 "ditherType" .id,
   typed 0x10007 "truncate" .bool, shaped 0x10008 "channelVolumes" .array .arrayFloat,
   typed 0x10009 "volumeBase" .float, typed 0x1000a "volumeStep" .float,
   members 0x1000b "channelMap" .audioChannel, typed 0x1000c "monitorMute" .bool,
   shaped 0x1000d "monitorVolumes" .array .arrayFloat, typed 0x1000e "latencyOffsetNsec" .long,
   typed 0x1000f "softMute" .bool, shaped 0x10010 "softVolumes" .array .arrayFloat,
   members 0x10011 "iec958Codecs" .audioIec958Codec, typed 0x10012 "volumeRampSamples" .int,
   typed 0x10013 "volumeRampStepSamples" .int, typed 0x10014 "volumeRampTime" .int,
   typed 0x10015 "volumeRampStepTime" .int,
   member 0x10016 "volumeRampScale" .audioVolumeRampScale, typed 0x20001 "brightness" .float,
   typed 0x20002 "contrast" .float, typed 0x20003 "saturation" .float, typed 0x20004 "hue" .float,
   typed 0x20005 "gamma" .float, typed 0x20006 "exposure" .float, typed 0x20007 "gain" .float,
   typed 0x20008 "sharpness" .float]

def formatSpecs : List PropertySpec :=
  [member 1 "mediaType" .mediaType, member 2 "mediaSubtype" .mediaSubtype,
   member 0x10001 "audio_format" .audioFormat, typed 0x10002 "audio_flags" .int,
   typed 0x10003 "audio_rate" .int, typed 0x10004 "audio_channels" .int,
   members 0x10005 "audio_position" .audioChannel,
   member 0x10006 "audio_iec958Codec" .audioIec958Codec,
   member 0x10007 "audio_bitorder" .paramBitorder, typed 0x10008 "audio_interleave" .int,
   typed 0x10009 "audio_bitrate" .int, typed 0x1000a "audio_blockAlign" .int,
   member 0x1000b "audio_AAC_streamFormat" .audioAACStreamFormat,
   member 0x1000c "audio_WMA_profile" .audioWMAProfile,
   member 0x1000d "audio_AMR_bandMode" .audioAMRBandMode,
   member 0x1000e "audio_MP3_channelMode" .audioMP3ChannelMode,
   member 0x1000f "audio_DTS_extType" .audioDTSExtType, typed 0x20001 "video_format" .id,
   typed 0x20002 "video_modifier" .long, typed 0x20003 "video_size" .rectangle,
   typed 0x20004 "video_framerate" .fraction, typed 0x20005 "video_maxFramerate" .fraction,
   typed 0x20006 "video_views" .int, typed 0x20007 "video_interlaceMode" .id,
   typed 0x20008 "video_pixelAspectRatio" .fraction, typed 0x20009 "video_multiviewMode" .id,
   typed 0x2000a "video_multiviewFlags" .id, typed 0x2000b "video_chromaSite" .id,
   typed 0x2000c "video_colorRange" .id, typed 0x2000d "video_colorMatrix" .id,
   typed 0x2000e "video_transferFunction" .id, typed 0x2000f "video_colorPrimaries" .id,
   typed 0x20010 "video_profile" .int, typed 0x20011 "video_level" .int,
   typed 0x20012 "video_H264_streamFormat" .id, typed 0x20013 "video_H264_alignment" .id,
   typed 0x20014 "video_H265_streamFormat" .id, typed 0x20015 "video_H265_alignment" .id,
   typed 0x20016 "video_deviceId" .bytes, typed 0x60001 "control_types" .choice]

def buffersSpecs : List PropertySpec :=
  [typed 1 "buffers" .int, typed 2 "blocks" .int, typed 3 "size" .int, typed 4 "stride" .int,
   typed 5 "align" .int, typed 6 "dataType" .choice, typed 7 "metaType" .int]

def metaSpecs : List PropertySpec :=
  [typed 1 "type" .id, typed 2 "size" .int, typed 3 "features" .int]

def ioSpecs : List PropertySpec :=
  [typed 1 "id" .id, typed 2 "size" .int]

def profileSpecs : List PropertySpec :=
  [typed 1 "index" .int, typed 2 "name" .string, typed 3 "description" .string,
   typed 4 "priority" .int, member 5 "available" .paramAvailability,
   shaped 6 "info" .struct .dictInfo, shaped 7 "classes" .struct .profileClasses,
   typed 8 "save" .bool]

def portConfigSpecs : List PropertySpec :=
  [member 1 "direction" .direction, member 2 "mode" .paramPortConfigMode, typed 3 "monitor" .bool,
   typed 4 "control" .bool, shaped 5 "format" .object .objectFormat]

def routeSpecs : List PropertySpec :=
  [typed 1 "index" .int, member 2 "direction" .direction, typed 3 "device" .int,
   typed 4 "name" .string, typed 5 "description" .string, typed 6 "priority" .int,
   member 7 "available" .paramAvailability, shaped 8 "info" .struct .dictInfo,
   shaped 9 "profiles" .array .arrayInt, shaped 10 "props" .object .objectProps,
   shaped 11 "devices" .array .arrayInt, typed 12 "profile" .int, typed 13 "save" .bool]

def latencySpecs : List PropertySpec :=
  [member 1 "direction" .direction, typed 2 "minQuantum" .float, typed 3 "maxQuantum" .float,
   typed 4 "minRate" .int, typed 5 "maxRate" .int, typed 6 "minNs" .long, typed 7 "maxNs" .long]

def processLatencySpecs : List PropertySpec :=
  [typed 1 "quantum" .float, typed 2 "rate" .int, typed 3 "ns" .long]

def tagSpecs : List PropertySpec :=
  [member 1 "direction" .direction, shaped 2 "info" .struct .dictInfo]

def paramDictSpecs : List PropertySpec :=
  [shaped 1 "info" .struct .dictInfo]

end Properties

section Objects

/-- A typed object class with the object id and type of its own. -/
structure ObjectClass where
  name : PyString
  objectType : Int
  objectId : Int
  specs : List PropertySpec

def spaPropInfo : ObjectClass := ⟨text "SpaPropInfo", 0x40001, 1, propInfoSpecs⟩

def spaProps : ObjectClass := ⟨text "SpaProps", 0x40002, 2, propsSpecs⟩

def spaFormat : ObjectClass := ⟨text "SpaFormat", 0x40003, 4, formatSpecs⟩

def spaParamBuffers : ObjectClass := ⟨text "SpaParamBuffers", 0x40004, 5, buffersSpecs⟩

def spaParamMeta : ObjectClass := ⟨text "SpaParamMeta", 0x40005, 6, metaSpecs⟩

def spaParamIO : ObjectClass := ⟨text "SpaParamIO", 0x40006, 7, ioSpecs⟩

def spaParamProfile : ObjectClass := ⟨text "SpaParamProfile", 0x40007, 9, profileSpecs⟩

def spaParamPortConfig : ObjectClass := ⟨text "SpaParamPortConfig", 0x40008, 11, portConfigSpecs⟩

def spaParamRoute : ObjectClass := ⟨text "SpaParamRoute", 0x40009, 13, routeSpecs⟩

def spaParamLatency : ObjectClass := ⟨text "SpaParamLatency", 0x4000b, 15, latencySpecs⟩

def spaParamProcessLatency : ObjectClass :=
  ⟨text "SpaParamProcessLatency", 0x4000c, 16, processLatencySpecs⟩

def spaParamTag : ObjectClass := ⟨text "SpaParamTag", 0x4000d, 17, tagSpecs⟩

def spaParamDict : ObjectClass := ⟨text "SpaParamDict", 0x4000e, 19, paramDictSpecs⟩

def objectClassesById : List (Int × ObjectClass) :=
  [(1, spaPropInfo), (2, spaProps), (3, spaFormat), (4, spaFormat), (5, spaParamBuffers),
   (6, spaParamMeta), (7, spaParamIO), (8, spaParamProfile), (9, spaParamProfile),
   (10, spaParamPortConfig), (11, spaParamPortConfig), (12, spaParamRoute), (13, spaParamRoute),
   (15, spaParamLatency), (16, spaParamProcessLatency), (17, spaParamTag), (19, spaParamDict)]

def objectIdToName : List (Int × PyString) :=
  [(1, text "PropInfo"), (2, text "Props"), (3, text "Format"), (4, text "Format"),
   (5, text "Buffers"), (6, text "Meta"), (7, text "IO"), (8, text "Profile"),
   (9, text "Profile"), (10, text "PortConfig"), (11, text "PortConfig"), (12, text "Route"),
   (13, text "Route"), (15, text "Latency"), (16, text "ProcessLatency"), (17, text "Tag"),
   (18, text "PeerEnumFormat"), (19, text "Capability"), (20, text "PeerCapability")]

def objectIdToType : List (Int × Int) :=
  [(1, 0x40001), (2, 0x40002), (3, 0x40003), (4, 0x40003), (5, 0x40004), (6, 0x40005),
   (7, 0x40006), (8, 0x40007), (9, 0x40007), (10, 0x40008), (11, 0x40008), (12, 0x40009),
   (13, 0x40009), (15, 0x4000b), (16, 0x4000c), (17, 0x4000d), (18, 0x4000f), (19, 0x4000e),
   (20, 0x4000f)]

/-- The property table registered for an object id; empty for an unknown id. -/
def propertySpecs (objectId : Int) : List PropertySpec :=
  ((objectClassesById.lookup objectId).map ObjectClass.specs).getD []

def propertySpecByKey (objectId key : Int) : Option PropertySpec :=
  (propertySpecs objectId).find? fun spec => spec.key = key

def propertySpecByName (objectId : Int) (name : PyString) : Option PropertySpec :=
  (propertySpecs objectId).find? fun spec => spec.name = name

end Objects

end WyrePlumber.Spa
