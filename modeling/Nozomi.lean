import Nozomi.Vdec.TimestampReorder.Memory
import Nozomi.Vdec.FrameParser.Flush
import Nozomi.Vdec.FrameParser.Overrun
import Nozomi.Vdec.FrameParser.NalLength
import Nozomi.Vdec.Component.Idle
import Nozomi.Vdec.H264Utils.AccessUnits
import Nozomi.Vdec.PushInput.StartCode
import Nozomi.Vdec.PushInput.NalUnits
import Nozomi.Display.Overlay.Release
import Nozomi.Vdec.Component.PendingOutput
import Nozomi.Vdec.Component.CmdQueue
import Nozomi.Vdec.LinkedMap
import Nozomi.Vdec.Component.Completions
import Nozomi.Display.Sync.Fences
import Nozomi.Display.Composer.Bounds
import Nozomi.Display.Composer.Redraw
import Nozomi.Audio.VoiceCall
import Nozomi.Audio.Routes
import Nozomi.Audio.Effects.Mirror
import Nozomi.Audio.Effects.Calibration
import Nozomi.Audio.Effects.Reverb
import Nozomi.Audio.Effects.VolumeCalls
import Nozomi.Audio.Visualizer.Capture
import Nozomi.Audio.VoiceProcessing.Enabling
import Nozomi.Vdec.Component.HeaderChecks
import Nozomi.Vdec.Demux.Bounds
import Nozomi.Display.Copybit.Settings
import Nozomi.Display.Copybit.SoftwareConverter
import Nozomi.Venc.Buffers.Accounting
import Nozomi.Venc.Buffers.Places
import Nozomi.Venc.Buffers.Loop
import Nozomi.Venc.Control.Completions
import Nozomi.Vdec.FrameRate
import Nozomi.Vdec.VendorConfig
import Nozomi.Vdec.H264Utils.Framing
import Nozomi.Vdec.H264Utils.ExtractionBounds
import Nozomi.Vdec.H264Utils.BadNals
import Nozomi.ExtraData.SliceInfo
import Nozomi.ExtraData.Histories
import Nozomi.ExtraData.SeiUnits
import Nozomi.Vdec.Panscan.Memory
import Nozomi.Vdec.Panscan.Windows
import Nozomi.Vdec.StreamParser.FrameRate
import Nozomi.Vdec.StreamParser.Iterations
import Nozomi.ExtraData.Fields
import Nozomi.ExtraData.ExpGolomb
import Nozomi.Display.Gralloc.Framebuffers
import Nozomi.Vdec.Mp4Utils.HeaderBounds
import Nozomi.Display.External.Resolution
import Nozomi.Image.Android
import Nozomi.Display.Overlay.MdpCtrl
import Nozomi.Display.ColorConverter
import Nozomi.Display.Composer.Region
import Nozomi.Display.Overlay.RotatorSizes
import Nozomi.Display.Overlay.RotatorFences
import Nozomi.Audio.Edid
import Nozomi.Audio.Offload.Exclusion
import Nozomi.System.Looper
